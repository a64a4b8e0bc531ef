import Mathlib.Data.List.Basic
import Mathlib.Data.Nat.Notation

/-!
# UTF-8

A byte string is valid when it encodes a list of characters.  A machine that
remembers which bytes may follow decides it byte by byte.

    run [] bs = some [] ↔ Valid bs                        (valid_iff)

* `valid_append_iff`: what follows a valid string is valid by itself.
* `valid_append_cons_iff`: an ASCII character separates valid strings.
* `valid_escape_iff`: writing ASCII characters as other ASCII characters changes nothing.
* `valid_three_iff`: the valid strings of three bytes.
-/

namespace Utf8

/-- The bytes encode a list of characters. -/
def Valid (bs : List UInt8) : Prop := ∃ cs : List Char, bs = cs.flatMap String.utf8EncodeChar

/-- Every byte is a character by itself. -/
def Ascii (bs : List UInt8) : Prop := ∀ b ∈ bs, b.toNat < 0x80

theorem Ascii.append {xs ys : List UInt8} (hx : Ascii xs) (hy : Ascii ys) : Ascii (xs ++ ys) :=
  List.forall_mem_append.mpr ⟨hx, hy⟩

theorem Ascii.cons {x : UInt8} {xs : List UInt8} (hx : x.toNat < 0x80) (hxs : Ascii xs) : Ascii (x :: xs) :=
  List.forall_mem_cons.mpr ⟨hx, hxs⟩

theorem ascii_nil : Ascii [] := fun _ h => (by cases h)

theorem ascii_singleton {b : UInt8} (hb : b.toNat < 0x80) : Ascii [b] := ascii_nil.cons hb

instance (bs : List UInt8) : Decidable (Ascii bs) := List.decidableBAll _ bs

/-! ## The machine -/

/-- The continuation bytes that may stand at a place. -/
structure TailRange where
  lo : ℕ
  hi : ℕ
  tail : 0x80 ≤ lo

def TailRange.all : TailRange := ⟨0x80, 0xBF, Nat.le_refl _⟩

def TailRange.Has (r : TailRange) (b : ℕ) : Prop := r.lo ≤ b ∧ b ≤ r.hi

instance (r : TailRange) (b : ℕ) : Decidable (r.Has b) := inferInstanceAs (Decidable (_ ∧ _))

/-- After `E0` and `ED`: no overlong form and no surrogate. -/
def TailRange.afterThree (b : ℕ) : TailRange where
  lo := if b = 0xE0 then 0xA0 else 0x80
  hi := if b = 0xED then 0x9F else 0xBF
  tail := by split <;> decide

/-- After `F0` and `F4`: no overlong form and nothing past the last character. -/
def TailRange.afterFour (b : ℕ) : TailRange where
  lo := if b = 0xF0 then 0x90 else 0x80
  hi := if b = 0xF4 then 0x8F else 0xBF
  tail := by split <;> decide

/-- What must follow the first byte of a character. -/
def lead (b : ℕ) : Option (List TailRange) :=
  if b < 0x80 then some []
  else if b < 0xC2 then none
  else if b < 0xE0 then some [.all]
  else if b < 0xF0 then some [.afterThree b, .all]
  else if b < 0xF5 then some [.afterFour b, .all, .all]
  else none

/-- One byte, where the bytes listed are still due. -/
def step : List TailRange → UInt8 → Option (List TailRange)
  | [], b => lead b.toNat
  | r :: rs, b => if r.Has b.toNat then some rs else none

def run : List TailRange → List UInt8 → Option (List TailRange)
  | q, [] => some q
  | q, b :: bs => (step q b).bind fun q => run q bs

@[simp] theorem run_nil (q : List TailRange) : run q [] = some q := rfl

theorem run_cons (q : List TailRange) (b : UInt8) (bs : List UInt8) :
    run q (b :: bs) = (step q b).bind fun q => run q bs := rfl

theorem run_append (q : List TailRange) (xs ys : List UInt8) :
    run q (xs ++ ys) = (run q xs).bind fun q => run q ys := by
  induction xs generalizing q with
  | nil => rfl
  | cons x xs ih =>
    rw [List.cons_append, run_cons, run_cons]
    cases step q x with
    | none => rfl
    | some q => exact ih q

/-- An ASCII byte stands between characters only. -/
theorem step_ascii (q : List TailRange) {b : UInt8} (hb : b.toNat < 0x80) :
    step q b = if q = [] then some [] else none := by
  cases q with
  | nil => rw [step, lead, if_pos hb, if_pos rfl]
  | cons r rs =>
    have hout : ¬ r.Has b.toNat := by
      intro hhas
      have htail := r.tail
      have hlo := hhas.1
      omega
    rw [step, if_neg hout, if_neg (List.cons_ne_nil r rs)]

/-- ASCII characters leave the machine where it is, or are refused. -/
theorem run_ascii (q : List TailRange) {bs : List UInt8} (hbs : Ascii bs) (hne : bs ≠ []) :
    run q bs = if q = [] then some [] else none := by
  induction bs with
  | nil => exact absurd rfl hne
  | cons b bs ih =>
    rw [run_cons, step_ascii q (hbs b List.mem_cons_self)]
    by_cases hq : q = []
    · subst hq
      rw [if_pos rfl, Option.bind_some]
      by_cases hmore : bs = []
      · rw [hmore, run_nil]
      · rw [ih (fun b h => hbs b (List.mem_cons_of_mem _ h)) hmore, if_pos rfl]
    · rw [if_neg hq, Option.bind_none]

/-- **Escaping.**  Where ASCII bytes are written as ASCII bytes and the others are kept, the machine does the
same. -/
theorem run_escape {escape : UInt8 → List UInt8}
    (hascii : ∀ b, b.toNat < 0x80 → escape b ≠ [] ∧ Ascii (escape b))
    (hkept : ∀ b, ¬ b.toNat < 0x80 → escape b = [b]) (q : List TailRange) (bs : List UInt8) :
    run q (bs.flatMap escape) = run q bs := by
  induction bs generalizing q with
  | nil => rfl
  | cons b bs ih =>
    have hbyte : run q (escape b) = step q b := by
      by_cases hb : b.toNat < 0x80
      · rw [run_ascii q (hascii b hb).2 (hascii b hb).1, step_ascii q hb]
      · rw [hkept b hb, run_cons]
        cases step q b <;> rfl
    rw [List.flatMap_cons, run_append, hbyte, run_cons]
    simp only [ih]

/-! ## The machine decides validity -/

theorem exists_char {v : ℕ} (hv : v.isValidChar) : ∃ c : Char, c.val.toNat = v :=
  ⟨Char.ofNatAux v hv, rfl⟩

theorem toNat_ofNat {n : ℕ} (hn : n < 256) : (UInt8.ofNat n).toNat = n :=
  UInt8.toNat_ofNat_of_lt' hn

theorem lead_two {a : ℕ} (hlow : 0xC2 ≤ a) (hhigh : a < 0xE0) : lead a = some [.all] := by
  unfold lead
  rw [if_neg (by omega), if_neg (by omega), if_pos hhigh]

theorem lead_three {a : ℕ} (hlow : 0xE0 ≤ a) (hhigh : a < 0xF0) : lead a = some [.afterThree a, .all] := by
  unfold lead
  rw [if_neg (by omega), if_neg (by omega), if_neg (by omega), if_pos hhigh]

theorem lead_four {a : ℕ} (hlow : 0xF0 ≤ a) (hhigh : a < 0xF5) : lead a = some [.afterFour a, .all, .all] := by
  unfold lead
  rw [if_neg (by omega), if_neg (by omega), if_neg (by omega), if_neg (by omega), if_pos hhigh]

/-- The forms a character takes, by the number of its bytes. -/
inductive Form : List UInt8 → Prop
  | one {a} (ha : a.toNat < 0x80) : Form [a]
  | two {a b} (hlow : 0xC2 ≤ a.toNat) (hhigh : a.toNat < 0xE0) (hb : TailRange.all.Has b.toNat) : Form [a, b]
  | three {a b c} (hlow : 0xE0 ≤ a.toNat) (hhigh : a.toNat < 0xF0) (hb : (TailRange.afterThree a.toNat).Has b.toNat)
      (hc : TailRange.all.Has c.toNat) : Form [a, b, c]
  | four {a b c d} (hlow : 0xF0 ≤ a.toNat) (hhigh : a.toNat < 0xF5) (hb : (TailRange.afterFour a.toNat).Has b.toNat)
      (hc : TailRange.all.Has c.toNat) (hd : TailRange.all.Has d.toNat) : Form [a, b, c, d]

/-- A form is taken as a whole. -/
theorem run_form {xs : List UInt8} (hform : Form xs) : run [] xs = some [] := by
  cases hform with
  | one ha => rw [run_cons, step, lead, if_pos ha, Option.bind_some, run_nil]
  | two hlow hhigh hb =>
    rw [run_cons, step, lead_two hlow hhigh, Option.bind_some, run_cons, step, if_pos hb, Option.bind_some, run_nil]
  | three hlow hhigh hb hc =>
    rw [run_cons, step, lead_three hlow hhigh, Option.bind_some, run_cons, step, if_pos hb, Option.bind_some, run_cons,
      step, if_pos hc, Option.bind_some, run_nil]
  | four hlow hhigh hb hc hd =>
    rw [run_cons, step, lead_four hlow hhigh, Option.bind_some, run_cons, step, if_pos hb, Option.bind_some, run_cons,
      step, if_pos hc, Option.bind_some, run_cons, step, if_pos hd, Option.bind_some, run_nil]

theorem run_tail {r : TailRange} {rs : List TailRange} {bs : List UInt8} (h : run (r :: rs) bs = some []) :
    ∃ b bs', bs = b :: bs' ∧ r.Has b.toNat ∧ run rs bs' = some [] := by
  cases bs with
  | nil =>
    rw [run_nil] at h
    cases h
  | cons b bs =>
    rw [run_cons, step] at h
    split at h
    · next hhas => exact ⟨b, bs, rfl, hhas, h⟩
    · cases h

/-- What the machine accepts begins with a form. -/
theorem form_of_run {a : UInt8} {bs : List UInt8} (h : run [] (a :: bs) = some []) :
    ∃ xs rest, a :: bs = xs ++ rest ∧ Form xs ∧ run [] rest = some [] := by
  rw [run_cons, step, lead] at h
  split at h
  · next ha => exact ⟨[a], bs, rfl, .one ha, h⟩
  · split at h
    · cases h
    · split at h
      · next hlow hhigh =>
        obtain ⟨b, bs, rfl, hb, hrest⟩ := run_tail h
        exact ⟨[a, b], bs, rfl, .two (by omega) hhigh hb, hrest⟩
      · split at h
        · next hlow hhigh =>
          obtain ⟨b, bs, rfl, hb, h⟩ := run_tail h
          obtain ⟨c, bs, rfl, hc, hrest⟩ := run_tail h
          exact ⟨[a, b, c], bs, rfl, .three (by omega) hhigh hb hc, hrest⟩
        · split at h
          · next hlow hhigh =>
            obtain ⟨b, bs, rfl, hb, h⟩ := run_tail h
            obtain ⟨c, bs, rfl, hc, h⟩ := run_tail h
            obtain ⟨d, bs, rfl, hd, hrest⟩ := run_tail h
            exact ⟨[a, b, c, d], bs, rfl, .four (by omega) hhigh hb hc hd, hrest⟩
          · cases h

/-! ### Forms and characters -/

theorem form_utf8EncodeChar (c : Char) : Form (String.utf8EncodeChar c) := by
  have hvalid : c.val.toNat.isValidChar := c.valid
  unfold Nat.isValidChar at hvalid
  unfold String.utf8EncodeChar
  generalize c.val.toNat = v at hvalid
  simp only
  split
  · next hone => exact .one (by rw [toNat_ofNat (by omega)]; omega)
  · split
    · next htwo =>
      apply Form.two
      · rw [toNat_ofNat (by omega)]
        omega
      · rw [toNat_ofNat (by omega)]
        omega
      · rw [toNat_ofNat (by omega)]
        constructor <;> simp only [TailRange.all] <;> omega
    · split
      · next hthree =>
        apply Form.three
        · rw [toNat_ofNat (by omega)]
          omega
        · rw [toNat_ofNat (by omega)]
          omega
        · rw [toNat_ofNat (by omega), toNat_ofNat (by omega)]
          constructor <;> simp only [TailRange.afterThree] <;> split <;> omega
        · rw [toNat_ofNat (by omega)]
          constructor <;> simp only [TailRange.all] <;> omega
      · next hfour =>
        apply Form.four
        · rw [toNat_ofNat (by omega)]
          omega
        · rw [toNat_ofNat (by omega)]
          omega
        · rw [toNat_ofNat (by omega), toNat_ofNat (by omega)]
          constructor <;> simp only [TailRange.afterFour] <;> split <;> omega
        · rw [toNat_ofNat (by omega)]
          constructor <;> simp only [TailRange.all] <;> omega
        · rw [toNat_ofNat (by omega)]
          constructor <;> simp only [TailRange.all] <;> omega

theorem uint8_eq_ofNat {b : UInt8} {n : ℕ} (h : b.toNat = n) : b = UInt8.ofNat n := by
  rw [← h, UInt8.ofNat_toNat]

theorem exists_char_of_form {xs : List UInt8} (hform : Form xs) : ∃ c : Char, String.utf8EncodeChar c = xs := by
  cases hform with
  | @one a ha =>
    obtain ⟨c, hc⟩ := exists_char (v := a.toNat) (.inl (by omega))
    refine ⟨c, ?_⟩
    unfold String.utf8EncodeChar
    simp only [hc]
    rw [if_pos (by omega), UInt8.ofNat_toNat]
  | @two a b hlow hhigh hb =>
    obtain ⟨hb1, hb2⟩ := hb
    simp only [TailRange.all] at hb1 hb2
    obtain ⟨c, hc⟩ := exists_char (v := (a.toNat - 0xC0) * 64 + (b.toNat - 0x80)) (.inl (by omega))
    refine ⟨c, ?_⟩
    unfold String.utf8EncodeChar
    simp only [hc]
    rw [if_neg (by omega), if_pos (by omega), ← uint8_eq_ofNat (b := a) (by omega),
      ← uint8_eq_ofNat (b := b) (by omega)]
  | @three a b d hlow hhigh hb hd =>
    obtain ⟨hb1, hb2⟩ := hb
    obtain ⟨hd1, hd2⟩ := hd
    simp only [TailRange.all, TailRange.afterThree] at hb1 hb2 hd1 hd2
    obtain ⟨c, hc⟩ := exists_char (v := (a.toNat - 0xE0) * 4096 + (b.toNat - 0x80) * 64 + (d.toNat - 0x80)) (by
      unfold Nat.isValidChar
      split at hb1 <;> split at hb2 <;> omega)
    have hlarge : 0x7FF < (a.toNat - 0xE0) * 4096 + (b.toNat - 0x80) * 64 + (d.toNat - 0x80) := by
      split at hb1 <;> omega
    have hb0 : 0x80 ≤ b.toNat := by split at hb1 <;> omega
    have hb3 : b.toNat ≤ 0xBF := by split at hb2 <;> omega
    refine ⟨c, ?_⟩
    unfold String.utf8EncodeChar
    simp only [hc]
    rw [if_neg (by omega), if_neg (by omega), if_pos (by omega), ← uint8_eq_ofNat (b := a) (by omega),
      ← uint8_eq_ofNat (b := b) (by omega), ← uint8_eq_ofNat (b := d) (by omega)]
  | @four a b d f hlow hhigh hb hd hf =>
    obtain ⟨hb1, hb2⟩ := hb
    obtain ⟨hd1, hd2⟩ := hd
    obtain ⟨hf1, hf2⟩ := hf
    simp only [TailRange.all, TailRange.afterFour] at hb1 hb2 hd1 hd2 hf1 hf2
    obtain ⟨c, hc⟩ := exists_char
      (v := (a.toNat - 0xF0) * 262144 + (b.toNat - 0x80) * 4096 + (d.toNat - 0x80) * 64 + (f.toNat - 0x80)) (by
      unfold Nat.isValidChar
      split at hb1 <;> split at hb2 <;> omega)
    have hlarge : 0xFFFF < (a.toNat - 0xF0) * 262144 + (b.toNat - 0x80) * 4096 + (d.toNat - 0x80) * 64 +
        (f.toNat - 0x80) := by
      split at hb1 <;> omega
    have hb0 : 0x80 ≤ b.toNat := by split at hb1 <;> omega
    have hb3 : b.toNat ≤ 0xBF := by split at hb2 <;> omega
    refine ⟨c, ?_⟩
    unfold String.utf8EncodeChar
    simp only [hc]
    rw [if_neg (by omega), if_neg (by omega), if_neg (by omega), ← uint8_eq_ofNat (b := a) (by omega),
      ← uint8_eq_ofNat (b := b) (by omega), ← uint8_eq_ofNat (b := d) (by omega), ← uint8_eq_ofNat (b := f) (by omega)]

theorem valid_of_run {bs : List UInt8} (h : run [] bs = some []) : Valid bs := by
  cases bs with
  | nil => exact ⟨[], rfl⟩
  | cons a bs =>
    obtain ⟨xs, rest, hsplit, hform, hrest⟩ := form_of_run h
    have hpos : 0 < xs.length := by cases hform <;> simp
    have hshorter : rest.length < (a :: bs).length := by
      rw [hsplit, List.length_append]
      omega
    obtain ⟨cs, hcs⟩ := valid_of_run hrest
    obtain ⟨c, hc⟩ := exists_char_of_form hform
    exact ⟨c :: cs, by rw [hsplit, List.flatMap_cons, hc, hcs]⟩
termination_by bs.length

/-- **The machine decides validity.** -/
theorem valid_iff (bs : List UInt8) : Valid bs ↔ run [] bs = some [] := by
  constructor
  · rintro ⟨cs, rfl⟩
    induction cs with
    | nil => rfl
    | cons c cs ih => rw [List.flatMap_cons, run_append, run_form (form_utf8EncodeChar c), Option.bind_some, ih]
  · exact valid_of_run

/-! ## Strings put together -/

theorem valid_nil : Valid [] := ⟨[], rfl⟩

theorem Valid.append {xs ys : List UInt8} (hx : Valid xs) (hy : Valid ys) : Valid (xs ++ ys) := by
  rw [valid_iff] at *
  rw [run_append, hx, Option.bind_some, hy]

/-- What follows a valid string is valid by itself. -/
theorem valid_append_iff {xs ys : List UInt8} (hx : Valid xs) : Valid (xs ++ ys) ↔ Valid ys := by
  rw [valid_iff] at *
  rw [valid_iff, run_append, hx, Option.bind_some]

theorem valid_ascii {bs : List UInt8} (hbs : Ascii bs) : Valid bs := by
  rw [valid_iff]
  by_cases hne : bs = []
  · rw [hne, run_nil]
  · rw [run_ascii [] hbs hne, if_pos rfl]

/-- What stands before ASCII characters is valid by itself. -/
theorem valid_append_ascii_iff {xs ys : List UInt8} (hys : Ascii ys) : Valid (xs ++ ys) ↔ Valid xs := by
  rw [valid_iff, valid_iff, run_append]
  by_cases hne : ys = []
  · subst hne
    cases run [] xs <;> rfl
  · cases hq : run [] xs with
    | none => simp
    | some q =>
      rw [Option.bind_some, run_ascii q hys hne]
      by_cases hq' : q = [] <;> simp [hq']

/-- **An ASCII character separates**: a string is valid when both sides of it are. -/
theorem valid_append_cons_iff {xs ys : List UInt8} {b : UInt8} (hb : b.toNat < 0x80) :
    Valid (xs ++ b :: ys) ↔ Valid xs ∧ Valid ys := by
  have hone : Ascii [b] := ascii_singleton hb
  have hsplit : xs ++ b :: ys = (xs ++ [b]) ++ ys := by rw [List.append_assoc, List.singleton_append]
  constructor
  · intro h
    have hx : Valid (xs ++ [b]) := by
      rw [valid_iff] at h ⊢
      rw [hsplit, run_append] at h
      rw [run_append] at h ⊢
      cases hq : run [] xs with
      | none =>
        rw [hq] at h
        cases h
      | some q =>
        rw [hq, Option.bind_some, run_ascii q hone (List.cons_ne_nil b [])] at h
        rw [Option.bind_some, run_ascii q hone (List.cons_ne_nil b [])]
        by_cases hq' : q = []
        · rw [if_pos hq']
        · rw [if_neg hq'] at h
          cases h
    rw [hsplit, valid_append_iff hx] at h
    exact ⟨(valid_append_ascii_iff hone).mp hx, h⟩
  · rintro ⟨hx, hy⟩
    rw [hsplit]
    exact ((valid_append_ascii_iff hone).mpr hx).append hy

/-- **Escaping** ASCII bytes keeps validity, both ways. -/
theorem valid_escape_iff {escape : UInt8 → List UInt8}
    (hascii : ∀ b, b.toNat < 0x80 → escape b ≠ [] ∧ Ascii (escape b))
    (hkept : ∀ b, ¬ b.toNat < 0x80 → escape b = [b]) (bs : List UInt8) : Valid (bs.flatMap escape) ↔ Valid bs := by
  rw [valid_iff, valid_iff, run_escape hascii hkept]

/-- A valid string that is not empty begins with a form. -/
theorem valid_cons_iff (a : UInt8) (bs : List UInt8) :
    Valid (a :: bs) ↔ ∃ xs rest, a :: bs = xs ++ rest ∧ Form xs ∧ Valid rest := by
  constructor
  · intro h
    obtain ⟨xs, rest, hsplit, hform, hrest⟩ := form_of_run ((valid_iff _).mp h)
    exact ⟨xs, rest, hsplit, hform, (valid_iff rest).mpr hrest⟩
  · rintro ⟨xs, rest, hsplit, hform, hrest⟩
    rw [hsplit, valid_append_iff ((valid_iff xs).mpr (run_form hform))]
    exact hrest

/-- **Three bytes are valid** as three characters of one byte, as one of one byte and one of two in either order, or
as one of three. -/
theorem valid_three_iff (a b c : UInt8) :
    Valid [a, b, c] ↔
      (a.toNat < 0x80 ∧ b.toNat < 0x80 ∧ c.toNat < 0x80) ∨
      (a.toNat < 0x80 ∧ (0xC2 ≤ b.toNat ∧ b.toNat < 0xE0) ∧ TailRange.all.Has c.toNat) ∨
      ((0xC2 ≤ a.toNat ∧ a.toNat < 0xE0) ∧ TailRange.all.Has b.toNat ∧ c.toNat < 0x80) ∨
      ((0xE0 ≤ a.toNat ∧ a.toNat < 0xF0) ∧ (TailRange.afterThree a.toNat).Has b.toNat ∧ TailRange.all.Has c.toNat) := by
  constructor
  · intro h
    obtain ⟨xs, rest, hsplit, hform, hrest⟩ := (valid_cons_iff a [b, c]).mp h
    cases hform with
    | one ha =>
      cases hsplit
      obtain ⟨ys, rest', hsplit', hform', hrest'⟩ := (valid_cons_iff b [c]).mp hrest
      cases hform' with
      | one hb =>
        cases hsplit'
        obtain ⟨zs, rest'', hsplit'', hform'', -⟩ := (valid_cons_iff c []).mp hrest'
        cases hform'' with
        | one hc =>
          cases hsplit''
          exact .inl ⟨ha, hb, hc⟩
        | _ => cases hsplit''
      | two hlow hhigh hc =>
        cases hsplit'
        exact .inr (.inl ⟨ha, ⟨hlow, hhigh⟩, hc⟩)
      | _ => cases hsplit'
    | two hlow hhigh hb =>
      cases hsplit
      obtain ⟨ys, rest', hsplit', hform', -⟩ := (valid_cons_iff c []).mp hrest
      cases hform' with
      | one hc =>
        cases hsplit'
        exact .inr (.inr (.inl ⟨⟨hlow, hhigh⟩, hb, hc⟩))
      | _ => cases hsplit'
    | three hlow hhigh hb hc =>
      cases hsplit
      exact .inr (.inr (.inr ⟨⟨hlow, hhigh⟩, hb, hc⟩))
    | four => cases hsplit
  · have hone : ∀ {x : UInt8}, x.toNat < 0x80 → Valid [x] := fun hx => valid_ascii (ascii_singleton hx)
    rintro (⟨ha, hb, hc⟩ | ⟨ha, ⟨hlow, hhigh⟩, hc⟩ | ⟨⟨hlow, hhigh⟩, hb, hc⟩ | ⟨⟨hlow, hhigh⟩, hb, hc⟩)
    · exact (hone ha).append ((hone hb).append (hone hc))
    · exact (hone ha).append ((valid_iff [b, c]).mpr (run_form (.two hlow hhigh hc)))
    · exact ((valid_iff [a, b]).mpr (run_form (.two hlow hhigh hb))).append (hone hc)
    · exact (valid_iff _).mpr (run_form (.three hlow hhigh hb hc))

end Utf8
