import AribcapDump.Rfc3339
import Mathlib.Data.Prod.Lex
import Mathlib.Data.Set.Function
import Mathlib.Order.Monotone.Basic

/-!
# Times are written in their order

The dates of `UnixMsToRfc3339Jst` are those of the Gregorian calendar: each day's date is the
calendar's next one after the date of the day before.  Every field of the text has its width, so that
texts of 29 bytes compare, byte by byte, as the times do:

    civilFromDays (days + 1) = (civilFromDays days).next        (civilFromDays_succ)
    unixMsToRfc3339Jst a < unixMsToRfc3339Jst b ↔ a < b         (unixMsToRfc3339Jst_lt_iff)

* `civilFromDays_valid`, `key_civilFromDays_lt`: a date is one of the calendar, and later on a later day.
* `paddedDecimal_lt`: numbers of one width compare as their digits.
* `unixMsToRfc3339Jst_injOn`: no two times are written alike.
-/

namespace AribcapDump

/-! ## The calendar -/

/-- Every fourth year, but of the centuries every fourth only. -/
def IsLeapYear (year : Int) : Prop := year % 4 = 0 ∧ (year % 100 = 0 → year % 400 = 0)

instance (year : Int) : Decidable (IsLeapYear year) := inferInstanceAs (Decidable (_ ∧ _))

def daysInMonth (year : Int) (month : ℕ) : ℕ :=
  if month = 2 then if IsLeapYear year then 29 else 28
  else if month = 4 ∨ month = 6 ∨ month = 9 ∨ month = 11 then 30
  else 31

theorem daysInMonth_le (year : Int) (month : ℕ) : daysInMonth year month ≤ 31 := by
  unfold daysInMonth
  split_ifs <;> decide

/-- The date of the next day. -/
def CivilDate.next (date : CivilDate) : CivilDate :=
  if date.day < daysInMonth date.year date.month then ⟨date.year, date.month, date.day + 1⟩
  else if date.month < 12 then ⟨date.year, date.month + 1, 1⟩
  else ⟨date.year + 1, 1, 1⟩

/-- A date of the calendar. -/
def CivilDate.Valid (date : CivilDate) : Prop :=
  1 ≤ date.month ∧ date.month ≤ 12 ∧ 1 ≤ date.day ∧ date.day ≤ daysInMonth date.year date.month

/-! ## One day later -/

/-- The days of a year of the era; its last February is that of the next civil year. -/
def yearLength (year : ℕ) : ℕ := if IsLeapYear (year + 1) then 366 else 365

theorem yearStart_succ {year : ℕ} (h : year < 399) : yearStart (year + 1) = yearStart year + yearLength year := by
  unfold yearStart yearLength
  by_cases hleap : IsLeapYear (year + 1)
  · rw [if_pos hleap]
    unfold IsLeapYear at hleap
    omega
  · rw [if_neg hleap]
    unfold IsLeapYear at hleap
    omega

/-- A day comes before the next year does. -/
theorem lt_yearEnd {day : ℕ} (h : day < 146097) : day < yearStart (yearOfEra day) + yearLength (yearOfEra day) := by
  obtain ⟨hera, hstart, -⟩ := yearStart_bounds h
  by_cases hlast : yearOfEra day = 399
  · rw [hlast]
    exact h
  rw [← yearStart_succ (by omega)]
  unfold yearStart yearOfEra at *
  have hzero : day / 146096 = 0 := by omega
  rw [hzero, Nat.sub_zero] at *
  generalize hcentury : day / 36524 = century at *
  generalize hyear : (day - day / 1460 + century) / 365 = year at *
  have hhigh : day - day / 1460 + century < 365 * (year + 1) := by omega
  have hcentury4 : century ≤ 3 := by omega
  have hsame : year / 100 = century := by
    interval_cases century <;> omega
  by_cases hnext : (year + 1) / 100 = century
  · -- the leap days before the next year are not fewer than the quotient by 1460
    have hleap : day / 1460 ≤ (year + 1) / 4 := by omega
    omega
  · -- the next year begins a century
    obtain rfl : year = 100 * century + 99 := by omega
    omega

theorem yearStart_mono : Monotone yearStart := by
  refine monotone_nat_of_le_succ fun year => ?_
  unfold yearStart
  omega

/-- A year is the one that has begun and not ended. -/
theorem yearOfEra_unique {day year : ℕ} (hyear : year ≤ 399) (hstart : yearStart year ≤ day)
    (hend : day < yearStart year + yearLength year) : yearOfEra day = year := by
  have hday : day < 146097 := by
    refine Nat.lt_of_lt_of_le hend ?_
    rcases Nat.lt_or_eq_of_le hyear with hlt | rfl
    · rw [← yearStart_succ hlt]
      exact (yearStart_mono (show year + 1 ≤ 399 from hlt)).trans (by decide)
    · decide
  obtain ⟨hera, hstart', -⟩ := yearStart_bounds hday
  have hend' := lt_yearEnd hday
  rcases Nat.lt_trichotomy (yearOfEra day) year with hlt | heq | hgt
  · rw [← yearStart_succ (by omega)] at hend'
    have hmono := yearStart_mono (show yearOfEra day + 1 ≤ year from hlt)
    omega
  · exact heq
  · rw [← yearStart_succ (by omega)] at hend
    have hmono := yearStart_mono (show year + 1 ≤ yearOfEra day from hgt)
    omega

/-- The year that began last March. -/
def marchYear (days : Int) : Int := yearOfEra (dayOfEra days) + (days + 719468) / 146097 * 400

/-- The days of the year that begins in March of `year`. -/
def marchYearLength (year : Int) : ℕ := if IsLeapYear (year + 1) then 366 else 365

theorem marchYearLength_marchYear (days : Int) :
    marchYearLength (marchYear days) = yearLength (yearOfEra (dayOfEra days)) := by
  have hleap : IsLeapYear (marchYear days + 1) ↔ IsLeapYear (yearOfEra (dayOfEra days) + 1) := by
    unfold IsLeapYear marchYear
    omega
  unfold marchYearLength yearLength
  simp only [hleap]

/-- One day later the year is the same or has ended. -/
theorem marchYear_succ (days : Int) :
    (dayOfYear days + 1 < marchYearLength (marchYear days) ∧ marchYear (days + 1) = marchYear days ∧
        dayOfYear (days + 1) = dayOfYear days + 1) ∨
      (dayOfYear days + 1 = marchYearLength (marchYear days) ∧ marchYear (days + 1) = marchYear days + 1 ∧
        dayOfYear (days + 1) = 0) := by
  have hday : dayOfEra days < 146097 := by
    unfold dayOfEra
    omega
  rw [marchYearLength_marchYear]
  obtain ⟨hera, hstart, -⟩ := yearStart_bounds hday
  have hend := lt_yearEnd hday
  unfold marchYear dayOfYear
  by_cases hlast : dayOfEra days = 146096
  · -- the era ends
    have hfirst : dayOfEra (days + 1) = 0 := by
      unfold dayOfEra at *
      omega
    have hnext : (days + 1 + 719468) / 146097 = (days + 719468) / 146097 + 1 := by
      unfold dayOfEra at hlast
      omega
    have hyear : yearOfEra 146096 = 399 := by decide
    have hzero : yearOfEra 0 = 0 := by decide
    right
    rw [hlast, hfirst, hnext, hyear, hzero]
    refine ⟨by decide, by omega, by decide⟩
  · have hsucc : dayOfEra (days + 1) = dayOfEra days + 1 := by
      unfold dayOfEra at *
      omega
    have hsame : (days + 1 + 719468) / 146097 = (days + 719468) / 146097 := by
      unfold dayOfEra at hlast
      omega
    rw [hsucc, hsame]
    rcases Nat.lt_or_eq_of_le (show dayOfEra days + 1 ≤ _ from hend) with hwithin | hdone
    · left
      rw [yearOfEra_unique hera (by omega) hwithin]
      omega
    · have h399 : yearOfEra (dayOfEra days) < 399 := by
        by_contra h399
        obtain h399 : yearOfEra (dayOfEra days) = 399 := by omega
        rw [h399] at hdone
        exact hlast (Nat.succ.inj hdone)
      right
      have hnext := yearStart_succ h399
      have hpositive : 0 < yearLength (yearOfEra (dayOfEra days) + 1) := by
        unfold yearLength
        split <;> decide
      have hyear : yearOfEra (dayOfEra days + 1) = yearOfEra (dayOfEra days) + 1 :=
        yearOfEra_unique h399 (by omega) (by omega)
      rw [hyear, hnext]
      omega

/-! ## Dates -/

/-- The date of a day of the year that begins in March of `year`. -/
def marchDate (year : Int) (day : ℕ) : CivilDate :=
  ⟨year + if civilMonth day ≤ 2 then 1 else 0, civilMonth day, dayOfMonth day⟩

theorem civilFromDays_eq_marchDate (days : Int) :
    civilFromDays days = marchDate (marchYear days) (dayOfYear days) := rfl

/-- The first day of each month, from March on. -/
theorem monthFromMarch_eq_iff {day month : ℕ} :
    monthFromMarch day = month ↔ (153 * month + 2) / 5 ≤ day ∧ day < (153 * (month + 1) + 2) / 5 := by
  unfold monthFromMarch
  omega

theorem marchYearLength_le (year : Int) : marchYearLength year ≤ 366 := by
  unfold marchYearLength
  split <;> decide

theorem marchDate_zero (year : Int) : marchDate year 0 = ⟨year, 3, 1⟩ := by
  simp [marchDate, civilMonth, monthFromMarch, dayOfMonth]

theorem monthFromMarch_le {year : Int} {day : ℕ} (h : day < marchYearLength year) : monthFromMarch day ≤ 11 := by
  have hlength := marchYearLength_le year
  unfold monthFromMarch
  omega

/-- A month ends where the next begins, the last one with its year. -/
theorem daysInMonth_marchDate {year : Int} {day : ℕ} (h : day < marchYearLength year) :
    daysInMonth (marchDate year day).year (marchDate year day).month =
      min (marchYearLength year) ((153 * (monthFromMarch day + 1) + 2) / 5) - (153 * monthFromMarch day + 2) / 5 := by
  have hmonth := monthFromMarch_le h
  have hlength : marchYearLength year = if IsLeapYear (year + 1) then 366 else 365 := rfl
  show daysInMonth (year + if civilMonth day ≤ 2 then 1 else 0) (civilMonth day) = _
  unfold civilMonth
  generalize monthFromMarch day = month at *
  rw [hlength]
  interval_cases month <;> by_cases hleap : IsLeapYear (year + 1) <;> simp [daysInMonth, hleap]

theorem marchDate_valid {year : Int} {day : ℕ} (h : day < marchYearLength year) : (marchDate year day).Valid := by
  have hmonth := monthFromMarch_le h
  obtain ⟨hlow, hhigh⟩ := monthFromMarch_eq_iff.mp (Eq.refl (monthFromMarch day))
  refine ⟨?_, ?_, Nat.succ_pos _, ?_⟩
  · show 1 ≤ civilMonth day
    unfold civilMonth
    split <;> omega
  · show civilMonth day ≤ 12
    unfold civilMonth
    split <;> omega
  · rw [daysInMonth_marchDate h]
    show dayOfMonth day ≤ _
    unfold dayOfMonth
    omega

/-- The next date is that of the next day of the year, or of the first day of the next year. -/
theorem marchDate_next {year : Int} {day : ℕ} (h : day < marchYearLength year) :
    (marchDate year day).next =
      if day + 1 < marchYearLength year then marchDate year (day + 1) else marchDate (year + 1) 0 := by
  have hmonth := monthFromMarch_le h
  obtain ⟨hlow, hhigh⟩ := monthFromMarch_eq_iff.mp (Eq.refl (monthFromMarch day))
  have hlength := marchYearLength_le year
  have hday : (marchDate year day).day = day - (153 * monthFromMarch day + 2) / 5 + 1 := rfl
  unfold CivilDate.next
  rw [daysInMonth_marchDate h, hday]
  by_cases hwithin : day + 1 < min (marchYearLength year) ((153 * (monthFromMarch day + 1) + 2) / 5)
  · -- the month goes on
    have hsame : monthFromMarch (day + 1) = monthFromMarch day := monthFromMarch_eq_iff.mpr (by omega)
    rw [if_pos (by omega), if_pos (by omega)]
    unfold marchDate civilMonth dayOfMonth
    rw [hsame, CivilDate.mk.injEq]
    exact ⟨rfl, rfl, by omega⟩
  · rw [if_neg (by omega)]
    by_cases hyear : day + 1 < marchYearLength year
    · -- the next month begins
      have hnext : monthFromMarch (day + 1) = monthFromMarch day + 1 := monthFromMarch_eq_iff.mpr (by omega)
      rw [if_pos hyear]
      unfold marchDate civilMonth dayOfMonth
      rw [hnext]
      generalize monthFromMarch day = month at *
      interval_cases month <;> simp <;> omega
    · -- February ends
      have hlast : monthFromMarch day = 11 := by
        unfold marchYearLength at *
        split at h <;> split at hyear <;> omega
      rw [if_neg hyear, marchDate_zero]
      unfold marchDate civilMonth
      rw [hlast]
      simp

/-- The next day has the calendar's next date. -/
theorem civilFromDays_succ (days : Int) : civilFromDays (days + 1) = (civilFromDays days).next := by
  rw [civilFromDays_eq_marchDate, civilFromDays_eq_marchDate]
  rcases marchYear_succ days with ⟨hwithin, hyear, hday⟩ | ⟨hend, hyear, hday⟩
  · rw [marchDate_next (by omega), if_pos hwithin, hyear, hday]
  · rw [marchDate_next (by omega), if_neg (by omega), hyear, hday]

theorem civilFromDays_valid (days : Int) : (civilFromDays days).Valid := by
  rw [civilFromDays_eq_marchDate]
  refine marchDate_valid ?_
  rcases marchYear_succ days with ⟨hwithin, -⟩ | ⟨hend, -⟩ <;> omega

/-- Years before months before days. -/
def CivilDate.key (date : CivilDate) : ℤ ×ₗ ℕ ×ₗ ℕ := toLex (date.year, toLex (date.month, date.day))

theorem CivilDate.key_lt_iff {date date' : CivilDate} :
    date.key < date'.key ↔ date.year < date'.year ∨
      date.year = date'.year ∧ (date.month < date'.month ∨ date.month = date'.month ∧ date.day < date'.day) := by
  unfold CivilDate.key
  rw [Prod.Lex.toLex_lt_toLex, Prod.Lex.toLex_lt_toLex]

theorem CivilDate.key_lt_next (date : CivilDate) : date.key < date.next.key := by
  rw [CivilDate.key_lt_iff]
  unfold CivilDate.next
  split
  · exact .inr ⟨rfl, .inr ⟨rfl, Nat.lt_succ_self _⟩⟩
  · split
    · exact .inr ⟨rfl, .inl (Nat.lt_succ_self _)⟩
    · exact .inl (Int.lt_succ _)

/-- A later day has a later date. -/
theorem key_civilFromDays_lt {days days' : Int} (h : days < days') :
    (civilFromDays days).key < (civilFromDays days').key := by
  have hsucc : ∀ days, (civilFromDays days).key < (civilFromDays (days + 1)).key := by
    intro days
    rw [civilFromDays_succ]
    exact CivilDate.key_lt_next _
  exact strictMono_int_of_lt_succ hsucc h

/-! ## Digits -/

/-- Texts compare at their first field, when it has one length in both. -/
theorem append_lt_append {xs ys t t' : Bytes} (hlength : xs.length = ys.length) (h : xs < ys) :
    xs ++ t < ys ++ t' := by
  induction xs generalizing ys with
  | nil =>
    rw [List.length_eq_zero_iff.mp hlength.symm] at h
    exact absurd h (List.not_lt_nil _)
  | cons x xs ih =>
    cases ys with
    | nil => cases hlength
    | cons y ys =>
      rw [List.cons_append, List.cons_append, List.cons_lt_cons_iff]
      rcases List.cons_lt_cons_iff.mp h with hhead | ⟨hhead, htail⟩
      · exact .inl hhead
      · exact .inr ⟨hhead, ih (Nat.succ.inj hlength) htail⟩

/-- The last digit of a number. -/
def lastDigit (n : ℕ) : UInt8 := (n % 10).digitChar.toUInt8

theorem lastDigit_lt {m n : ℕ} (h : m % 10 < n % 10) : lastDigit m < lastDigit n := by
  have hdigits : ∀ i < 10, ∀ j < 10, j < i → (Nat.digitChar j).toUInt8 < (Nat.digitChar i).toUInt8 := by decide
  exact hdigits _ (Nat.mod_lt n (by decide)) _ (Nat.mod_lt m (by decide)) h

theorem paddedDecimal_succ {width : ℕ} (hwidth : 0 < width) (n : ℕ) :
    paddedDecimal (width + 1) n = paddedDecimal width (n / 10) ++ [lastDigit n] := by
  unfold paddedDecimal lastDigit
  rcases Nat.lt_or_ge n 10 with hdigit | hmore
  · rw [Nat.toDigits_of_lt_base hdigit, Nat.div_eq_of_lt hdigit, Nat.mod_eq_of_lt hdigit, Nat.toDigits_zero]
    obtain ⟨k, rfl⟩ : ∃ k, width = k + 1 := ⟨width - 1, by omega⟩
    simp [List.replicate_succ']
    rfl
  · rw [Nat.toDigits_of_base_le (by decide) hmore]
    simp

theorem paddedDecimal_one {n : ℕ} (h : n < 10) : paddedDecimal 1 n = [lastDigit n] := by
  unfold paddedDecimal lastDigit
  rw [Nat.toDigits_of_lt_base h, Nat.mod_eq_of_lt h]
  rfl

theorem length_paddedDecimal {width n : ℕ} (hwidth : 0 < width) (h : n < 10 ^ width) :
    (paddedDecimal width n).length = width := by
  induction width, hwidth using Nat.le_induction generalizing n with
  | base => rw [paddedDecimal_one h, List.length_singleton]
  | succ width hwidth ih =>
    rw [paddedDecimal_succ hwidth, List.length_append, ih (by omega), List.length_singleton]

/-- Numbers of one width compare as their digits. -/
theorem paddedDecimal_lt {width m n : ℕ} (hwidth : 0 < width) (hn : n < 10 ^ width) (h : m < n) :
    paddedDecimal width m < paddedDecimal width n := by
  induction width, hwidth using Nat.le_induction generalizing m n with
  | base =>
    rw [paddedDecimal_one hn, paddedDecimal_one (h.trans hn), List.cons_lt_cons_iff]
    exact .inl (lastDigit_lt (by omega))
  | succ width hwidth ih =>
    rw [paddedDecimal_succ hwidth, paddedDecimal_succ hwidth]
    rcases Nat.lt_or_ge (m / 10) (n / 10) with hfirst | hrest
    · refine append_lt_append ?_ (ih (by omega) hfirst)
      rw [length_paddedDecimal hwidth (by omega), length_paddedDecimal hwidth (by omega)]
    · have hsame : m / 10 = n / 10 := by omega
      rw [hsame]
      exact List.append_left_lt (List.cons_lt_cons_iff.mpr (.inl (lastDigit_lt (by omega))))

/-! ## The text -/

/-- A number, then the rest. -/
theorem field_lt {width m n : ℕ} {t t' : Bytes} (hwidth : 0 < width) (hm : m < 10 ^ width) (hn : n < 10 ^ width)
    (h : m < n ∨ m = n ∧ t < t') : paddedDecimal width m ++ t < paddedDecimal width n ++ t' := by
  rcases h with hlt | ⟨rfl, htail⟩
  · refine append_lt_append ?_ (paddedDecimal_lt hwidth hn hlt)
    rw [length_paddedDecimal hwidth hm, length_paddedDecimal hwidth hn]
  · exact List.append_left_lt htail

theorem cons_lt_cons {b : UInt8} {t t' : Bytes} (h : t < t') : b :: t < b :: t' :=
  List.cons_lt_cons_iff.mpr (.inr ⟨rfl, h⟩)

/-- A date of the four-digit years. -/
structure CivilDate.FourDigits (date : CivilDate) : Prop where
  year : 0 ≤ date.year ∧ date.year < 10000
  month : date.month < 100
  day : date.day < 100

theorem FormattedTime.fourDigits {unixMs : Int} (h : FormattedTime unixMs) :
    (civilFromDays ((unixMs + 9 * 3600000) / 86400000)).FourDigits := by
  obtain ⟨hpos, hyear⟩ := h
  obtain ⟨-, hmonth, -, hday⟩ := civilFromDays_valid ((unixMs + 9 * 3600000) / 86400000)
  have hepoch : (civilFromDays 0).key ≤ (civilFromDays ((unixMs + 9 * 3600000) / 86400000)).key := by
    rcases Int.lt_or_eq_of_le (show 0 ≤ (unixMs + 9 * 3600000) / 86400000 by omega) with hlater | hfirst
    · exact (key_civilFromDays_lt hlater).le
    · rw [← hfirst]
  refine ⟨⟨?_, hyear⟩, by omega, ?_⟩
  · by_contra hneg
    refine absurd (CivilDate.key_lt_iff.mpr (.inl ?_)) (not_lt_of_ge hepoch)
    exact Int.lt_trans (Int.not_le.mp hneg) (by decide)
  · exact Nat.lt_of_le_of_lt (hday.trans (daysInMonth_le _ _)) (by decide)

theorem length_formatDate {date : CivilDate} (h : date.FourDigits) : (formatDate date).length = 10 := by
  obtain ⟨⟨hpos, hyear⟩, hmonth, hday⟩ := h
  unfold formatDate
  rw [if_neg (by omega), List.nil_append, List.length_append, List.length_cons, List.length_append, List.length_cons,
    length_paddedDecimal (by decide) (by omega), length_paddedDecimal (by decide) (by omega),
    length_paddedDecimal (by decide) (by omega)]

theorem formatDate_lt {date date' : CivilDate} (h : date.FourDigits) (h' : date'.FourDigits)
    (hlt : date.key < date'.key) : formatDate date < formatDate date' := by
  obtain ⟨⟨hpos, hyear⟩, hmonth, hday⟩ := h
  obtain ⟨⟨hpos', hyear'⟩, hmonth', hday'⟩ := h'
  unfold formatDate
  rw [if_neg (by omega), if_neg (by omega)]
  simp only [List.nil_append, List.append_assoc, List.cons_append]
  rw [CivilDate.key_lt_iff] at hlt
  refine field_lt (by decide) (by omega) (by omega) ?_
  rcases hlt with hyears | ⟨hyears, hmonths⟩
  · exact .inl (by omega)
  refine .inr ⟨by omega, cons_lt_cons (field_lt (by decide) (by omega) (by omega) ?_)⟩
  rcases hmonths with hmonths | ⟨hmonths, hdays⟩
  · exact .inl hmonths
  · exact .inr ⟨hmonths, cons_lt_cons (paddedDecimal_lt (by decide) (by omega) hdays)⟩

theorem length_formatTime {ms : ℕ} (h : ms < 86400000) : (formatTime ms).length = 12 := by
  unfold formatTime
  simp only [List.length_append, List.length_cons]
  rw [length_paddedDecimal (by decide) (by omega), length_paddedDecimal (by decide) (by omega),
    length_paddedDecimal (by decide) (by omega), length_paddedDecimal (by decide) (by omega)]

theorem formatTime_lt {ms ms' : ℕ} (h' : ms' < 86400000) (hlt : ms < ms') : formatTime ms < formatTime ms' := by
  unfold formatTime
  simp only [List.append_assoc, List.cons_append]
  refine field_lt (by decide) (by omega) (by omega) ?_
  rcases Nat.lt_or_ge (ms / 3600000) (ms' / 3600000) with hhours | hhours
  · exact .inl hhours
  refine .inr ⟨by omega, cons_lt_cons (field_lt (by decide) (by omega) (by omega) ?_)⟩
  rcases Nat.lt_or_ge (ms / 60000 % 60) (ms' / 60000 % 60) with hminutes | hminutes
  · exact .inl hminutes
  refine .inr ⟨by omega, cons_lt_cons (field_lt (by decide) (by omega) (by omega) ?_)⟩
  rcases Nat.lt_or_ge (ms / 1000 % 60) (ms' / 1000 % 60) with hseconds | hseconds
  · exact .inl hseconds
  · exact .inr ⟨by omega, cons_lt_cons (paddedDecimal_lt (by decide) (by omega) (by omega))⟩

theorem length_unixMsToRfc3339Jst {unixMs : Int} (h : FormattedTime unixMs) :
    (unixMsToRfc3339Jst unixMs).length = 29 := by
  unfold unixMsToRfc3339Jst
  simp only [List.length_append, List.length_cons, List.length_nil]
  rw [length_formatDate h.fourDigits, length_formatTime (by omega)]

theorem unixMsToRfc3339Jst_lt {a b : Int} (ha : FormattedTime a) (hb : FormattedTime b) (hlt : a < b) :
    unixMsToRfc3339Jst a < unixMsToRfc3339Jst b := by
  unfold unixMsToRfc3339Jst
  simp only [List.append_assoc, List.cons_append]
  rcases lt_or_ge ((a + 9 * 3600000) / 86400000) ((b + 9 * 3600000) / 86400000) with hdays | hdays
  · refine append_lt_append ?_ (formatDate_lt ha.fourDigits hb.fourDigits (key_civilFromDays_lt hdays))
    rw [length_formatDate ha.fourDigits, length_formatDate hb.fourDigits]
  · have hsame : (a + 9 * 3600000) / 86400000 = (b + 9 * 3600000) / 86400000 := by omega
    rw [hsame]
    refine List.append_left_lt (cons_lt_cons (append_lt_append ?_ (formatTime_lt (by omega) (by omega))))
    rw [length_formatTime (by omega), length_formatTime (by omega)]

/-- The text determines the time. -/
theorem unixMsToRfc3339Jst_injOn : Set.InjOn unixMsToRfc3339Jst {unixMs | FormattedTime unixMs} := by
  intro a ha b hb htext
  rcases Int.lt_trichotomy a b with hlt | heq | hgt
  · exact absurd (htext ▸ unixMsToRfc3339Jst_lt ha hb hlt) (List.lt_irrefl _)
  · exact heq
  · exact absurd (htext ▸ unixMsToRfc3339Jst_lt hb ha hgt) (List.lt_irrefl _)

/-- **Times are written in their order**, in 29 bytes each. -/
theorem unixMsToRfc3339Jst_lt_iff {a b : Int} (ha : FormattedTime a) (hb : FormattedTime b) :
    (unixMsToRfc3339Jst a).length = 29 ∧ (unixMsToRfc3339Jst b).length = 29 ∧
      (unixMsToRfc3339Jst a < unixMsToRfc3339Jst b ↔ a < b) := by
  refine ⟨length_unixMsToRfc3339Jst ha, length_unixMsToRfc3339Jst hb, fun htext => ?_,
    unixMsToRfc3339Jst_lt ha hb⟩
  by_contra hge
  rcases Int.lt_or_eq_of_le (Int.not_lt.mp hge) with hgt | rfl
  · exact List.lt_asymm htext (unixMsToRfc3339Jst_lt hb ha hgt)
  · exact List.lt_irrefl _ htext

/-- The last millisecond of 1999 and the next. -/
theorem unixMsToRfc3339Jst_lt_iff_newYear :
    unixMsToRfc3339Jst 946652399999 < unixMsToRfc3339Jst 946652400000 :=
  (unixMsToRfc3339Jst_lt_iff ⟨by decide, by decide⟩ ⟨by decide, by decide⟩).2.2.mpr (by decide)

/-- **A day later it is the same time of the calendar's next date**, before the year 10000. -/
theorem unixMsToRfc3339Jst_nextDay {unixMs : Int} (h : FormattedTime unixMs)
    (hnext : FormattedTime (unixMs + 86400000)) :
    ∃ date : CivilDate, ∃ time : Bytes, date.Valid ∧ date.FourDigits ∧ date.next.FourDigits ∧
      unixMsToRfc3339Jst unixMs = formatDate date ++ 84 :: time ∧
      unixMsToRfc3339Jst (unixMs + 86400000) = formatDate date.next ++ 84 :: time := by
  have hdays : (unixMs + 86400000 + 9 * 3600000) / 86400000 = (unixMs + 9 * 3600000) / 86400000 + 1 := by omega
  have htime : (unixMs + 86400000 + 9 * 3600000) % 86400000 = (unixMs + 9 * 3600000) % 86400000 := by omega
  have hdigits := hnext.fourDigits
  rw [hdays, civilFromDays_succ] at hdigits
  refine ⟨civilFromDays ((unixMs + 9 * 3600000) / 86400000),
    formatTime ((unixMs + 9 * 3600000) % 86400000).toNat ++ [43, 48, 57, 58, 48, 48], civilFromDays_valid _,
    h.fourDigits, hdigits, ?_, ?_⟩
  · simp only [unixMsToRfc3339Jst, List.append_assoc, List.cons_append]
  · simp only [unixMsToRfc3339Jst, List.append_assoc, List.cons_append]
    rw [hdays, htime, civilFromDays_succ]

/-- Noon of the day before the leap day of 2000. -/
theorem unixMsToRfc3339Jst_nextDay_leapDay :
    ∃ date : CivilDate, ∃ time : Bytes, date.Valid ∧ date.FourDigits ∧ date.next.FourDigits ∧
      unixMsToRfc3339Jst 951706800000 = formatDate date ++ 84 :: time ∧
      unixMsToRfc3339Jst 951793200000 = formatDate date.next ++ 84 :: time :=
  @unixMsToRfc3339Jst_nextDay 951706800000 ⟨by decide, by decide⟩ ⟨by decide, by decide⟩

end AribcapDump
