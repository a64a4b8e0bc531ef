import AribcapDump.Lib.Delimited
import AribcapDump.TsUtils
import Mathlib.Tactic.IntervalCases

/-!
# Dates and decimals

The steps of `civilFromDays`, from the day of the 400-year era on, and the
digits of `paddedDecimal`.

* `yearStart_bounds`: a year of the era begins at most 365 days before any day of it.
* `paddedDecimal_split`: a number ends where its digits do, and they determine it.
-/

namespace AribcapDump

/-! ## Civil dates -/

def yearOfEra (dayOfEra : ℕ) : ℕ :=
  (dayOfEra - dayOfEra / 1460 + dayOfEra / 36524 - dayOfEra / 146096) / 365

/-- The day of the era on which a year begins. -/
def yearStart (year : ℕ) : ℕ := 365 * year + year / 4 - year / 100

/-- The year of a day begins on that day or up to 365 days before. -/
theorem yearStart_bounds {dayOfEra : ℕ} (h : dayOfEra < 146097) :
    yearOfEra dayOfEra ≤ 399 ∧ yearStart (yearOfEra dayOfEra) ≤ dayOfEra ∧
      dayOfEra - yearStart (yearOfEra dayOfEra) ≤ 365 := by
  unfold yearOfEra yearStart
  generalize hcentury : dayOfEra / 36524 = century
  generalize hyear : (dayOfEra - dayOfEra / 1460 + century - dayOfEra / 146096) / 365 = year
  have hyear399 : year ≤ 399 := by omega
  by_cases hlast : dayOfEra = 146096
  · subst hlast
    omega
  have hzero : dayOfEra / 146096 = 0 := by omega
  have hlow : 365 * year ≤ dayOfEra - dayOfEra / 1460 + century := by omega
  have hhigh : dayOfEra - dayOfEra / 1460 + century < 365 * year + 365 := by omega
  have hcentury4 : century ≤ 4 := by omega
  -- the year lies in the century of the day
  have hsame : year / 100 = century := by
    interval_cases century <;> omega
  have hfours : year / 4 = 25 * century + (year - 100 * century) / 4 := by omega
  -- so as many leap days went before it as the quotient by 1460 takes off, or one less
  have hday : 365 * (year - 100 * century) ≤ dayOfEra - 36524 * century := by omega
  have hleap : 25 * century + (year - 100 * century) / 4 ≤ dayOfEra / 1460 := by omega
  have hquotient : dayOfEra / 1460 ≤ 25 * century + 25 := by omega
  have hday' : dayOfEra - 36524 * century < 365 * (year - 100 * century) + 365 + 25 := by omega
  have hleap' : dayOfEra / 1460 ≤ 25 * century + (year - 100 * century) / 4 + 1 := by omega
  exact ⟨hyear399, by omega, by omega⟩

def monthFromMarch (dayOfYear : ℕ) : ℕ := (5 * dayOfYear + 2) / 153

def civilMonth (dayOfYear : ℕ) : ℕ :=
  if monthFromMarch dayOfYear < 10 then monthFromMarch dayOfYear + 3 else monthFromMarch dayOfYear - 9

def dayOfMonth (dayOfYear : ℕ) : ℕ := dayOfYear - (153 * monthFromMarch dayOfYear + 2) / 5 + 1

def dayOfEra (days : Int) : ℕ := ((days + 719468) % 146097).toNat

def dayOfYear (days : Int) : ℕ := dayOfEra days - yearStart (yearOfEra (dayOfEra days))

/-! ## Decimals -/

def IsDigit (b : UInt8) : Prop := 48 ≤ b.toNat ∧ b.toNat ≤ 57

instance (b : UInt8) : Decidable (IsDigit b) := inferInstanceAs (Decidable (_ ∧ _))

theorem toNat_digit {n : ℕ} {c : Char} (hc : c ∈ Nat.toDigits 10 n) :
    c.toUInt8.toNat = c.toNat ∧ 48 ≤ c.toNat ∧ c.toNat ≤ 57 := by
  have hrange := Nat.isDigit_of_mem_toDigits (by decide) (by decide) hc
  rw [Char.isDigit, Bool.and_eq_true, decide_eq_true_iff, decide_eq_true_iff] at hrange
  have hlow : 48 ≤ c.toNat := hrange.1
  have hhigh : c.toNat ≤ 57 := hrange.2
  exact ⟨Nat.mod_eq_of_lt (Nat.lt_of_le_of_lt hhigh (by decide)), hlow, hhigh⟩

theorem isDigit_of_mem_digits {n : ℕ} {b : UInt8} (hb : b ∈ (Nat.toDigits 10 n).map Char.toUInt8) : IsDigit b := by
  obtain ⟨c, hc, rfl⟩ := List.mem_map.mp hb
  obtain ⟨hbyte, hrange⟩ := toNat_digit hc
  unfold IsDigit
  rwa [hbyte]

theorem isDigit_paddedDecimal (width n : ℕ) : ∀ b ∈ paddedDecimal width n, IsDigit b := by
  intro b hb
  rcases List.mem_append.mp hb with hpad | hdigit
  · rw [(List.mem_replicate.mp hpad).2]
    decide
  · exact isDigit_of_mem_digits hdigit

theorem paddedDecimal_ne_nil (width n : ℕ) : paddedDecimal width n ≠ [] := by
  unfold paddedDecimal
  simp [Nat.toDigits_ne_nil]

def decimalValue (digits : Bytes) : ℕ := Nat.ofDigitChars 10 (digits.map fun b => Char.ofNat b.toNat) 0

theorem decimalValue_paddedDecimal (width n : ℕ) : decimalValue (paddedDecimal width n) = n := by
  have hchars : ((Nat.toDigits 10 n).map Char.toUInt8).map (fun b => Char.ofNat b.toNat) = Nat.toDigits 10 n := by
    rw [List.map_map]
    refine (List.map_congr_left fun c hc => ?_).trans (List.map_id _)
    show Char.ofNat c.toUInt8.toNat = c
    rw [(toNat_digit hc).1, Char.ofNat_toNat]
  have hzeros : ∀ k, (List.replicate k (48 : UInt8)).map (fun b => Char.ofNat b.toNat) = List.replicate k '0' := by
    intro k
    rw [List.map_replicate]
    rfl
  unfold decimalValue paddedDecimal
  rw [List.map_append, hzeros, hchars, Nat.ofDigitChars_append, Nat.ofDigitChars_replicate_zero, Nat.mul_zero,
    Nat.ofDigitChars_ten_toDigits]

/-- A number ends where the digits do. -/
theorem paddedDecimal_split {width width' n n' : ℕ} {t t' : Bytes} (ht : ∀ b ∈ t.head?, ¬ IsDigit b)
    (ht' : ∀ b ∈ t'.head?, ¬ IsDigit b) (h : paddedDecimal width n ++ t = paddedDecimal width' n' ++ t') :
    n = n' ∧ t = t' := by
  obtain ⟨hdigits, htail⟩ := Delimited.split_at_first (isDigit_paddedDecimal width n)
    (isDigit_paddedDecimal width' n') ht ht' h
  refine ⟨?_, htail⟩
  rw [← decimalValue_paddedDecimal width n, hdigits, decimalValue_paddedDecimal]

end AribcapDump
