import Mathlib.Data.List.Basic

/-!
# The first suffix with a property

`firstSuffix p xs` is the least offset at which the rest of `xs` satisfies `p`.
What a scan that moves through `xs` from the left needs:

* `firstSuffix_eq_some_iff`: it is the least such offset, and no other.
* `firstSuffix_drop`: offsets already ruled out can be dropped.
* `find?_range'`: it is the `find?` over a range of offsets.
-/

namespace Scan

variable {α : Type*} (p : List α → Bool)

/-- The least offset whose suffix satisfies `p`. -/
def firstSuffix : List α → Option Nat
  | [] => if p [] then some 0 else none
  | x :: xs => if p (x :: xs) then some 0 else (firstSuffix xs).map (· + 1)

theorem firstSuffix_of_pos {xs : List α} (h : p xs = true) : firstSuffix p xs = some 0 := by
  cases xs <;> simp [firstSuffix, h]

theorem firstSuffix_eq_some_iff (xs : List α) (c : Nat) :
    firstSuffix p xs = some c ↔
      c ≤ xs.length ∧ p (xs.drop c) = true ∧ ∀ i, i < c → p (xs.drop i) = false := by
  induction xs generalizing c with
  | nil =>
    simp only [firstSuffix, List.drop_nil, List.length_nil, Nat.le_zero]
    constructor
    · intro h
      split at h
      · next hp => cases h; exact ⟨rfl, hp, fun i hi => absurd hi (Nat.not_lt_zero i)⟩
      · cases h
    · rintro ⟨rfl, hp, -⟩
      rw [if_pos hp]
  | cons x xs ih =>
    unfold firstSuffix
    split
    · next hp =>
      constructor
      · rintro h
        cases h
        exact ⟨Nat.zero_le _, hp, fun i hi => absurd hi (Nat.not_lt_zero i)⟩
      · rintro ⟨-, -, h⟩
        cases c with
        | zero => rfl
        | succ c => have := h 0 (Nat.succ_pos c); simp [hp] at this
    · next hp =>
      cases c with
      | zero => simp [hp]
      | succ c =>
        simp only [Option.map_eq_some_iff, Nat.add_right_cancel_iff, exists_eq_right, ih,
          List.length_cons, List.drop_succ_cons, Nat.add_le_add_iff_right]
        refine and_congr_right fun _ => and_congr_right fun _ => ⟨fun h i hi => ?_, fun h i hi => ?_⟩
        · cases i with
          | zero => simpa using hp
          | succ i => exact h i (Nat.lt_of_succ_lt_succ hi)
        · exact h (i + 1) (Nat.succ_lt_succ hi)

theorem firstSuffix_eq_none_iff (xs : List α) :
    firstSuffix p xs = none ↔ ∀ i, i ≤ xs.length → p (xs.drop i) = false := by
  induction xs with
  | nil => simp [firstSuffix]
  | cons x xs ih =>
    unfold firstSuffix
    split
    · next hp =>
      simp only [reduceCtorEq, false_iff]
      intro h
      have := h 0 (Nat.zero_le _)
      simp [hp] at this
    · next hp =>
      rw [Option.map_eq_none_iff, ih]
      constructor
      · intro h i hi
        cases i with
        | zero => simpa using hp
        | succ i => exact h i (by simpa using hi)
      · intro h i hi
        exact h (i + 1) (by simpa using hi)

/-- Offsets already ruled out are dropped. -/
theorem firstSuffix_drop (xs : List α) (k : Nat) (h : ∀ i, i < k → p (xs.drop i) = false) :
    firstSuffix p xs = (firstSuffix p (xs.drop k)).map (· + k) := by
  induction k generalizing xs with
  | zero => simp
  | succ k ih =>
    cases xs with
    | nil =>
      have := h 0 (Nat.succ_pos k)
      simp only [List.drop_nil] at this ⊢
      simp [firstSuffix, this]
    | cons x xs =>
      have h0 : p (x :: xs) = false := h 0 (Nat.succ_pos k)
      have hstep := ih xs (fun i hi => h (i + 1) (Nat.succ_lt_succ hi))
      rw [firstSuffix, if_neg (by simp [h0]), hstep, List.drop_succ_cons, Option.map_map]
      congr 1

/-- The search over offsets `lo, lo + 1, …, hi - 1` of `xs`, when the suffix found fits below `hi`. -/
theorem find?_range' (xs : List α) (lo hi : Nat) (hp : ∀ ys, p ys = true → ys ≠ []) :
    (List.range' lo (hi - lo)).find? (fun c => p (xs.drop c)) =
      match firstSuffix p (xs.drop lo) with
      | some c => if lo + c < hi then some (lo + c) else none
      | none => none := by
  cases hf : firstSuffix p (xs.drop lo) with
  | none =>
    simp only [List.find?_eq_none, List.mem_range'_1]
    rintro c ⟨hlo, -⟩
    rw [firstSuffix_eq_none_iff] at hf
    by_cases hc : c - lo ≤ (xs.drop lo).length
    · have := hf (c - lo) hc
      rw [List.drop_drop, show lo + (c - lo) = c by omega] at this
      simp [this]
    · intro hpc
      refine hp _ hpc (List.drop_eq_nil_of_le ?_)
      rw [List.length_drop] at hc
      omega
  | some c =>
    obtain ⟨-, hpc, hmin⟩ := (firstSuffix_eq_some_iff p _ _).mp hf
    rw [List.drop_drop] at hpc
    simp only
    split
    · next hlt =>
      rw [List.find?_range'_eq_some]
      refine ⟨hpc, by simp; omega, fun j hlo hj => ?_⟩
      have := hmin (j - lo) (by omega)
      rw [List.drop_drop, show lo + (j - lo) = j by omega] at this
      simp [this]
    · next hge =>
      simp only [List.find?_eq_none, List.mem_range'_1]
      rintro j ⟨hlo, hj⟩
      have := hmin (j - lo) (by omega)
      rw [List.drop_drop, show lo + (j - lo) = j by omega] at this
      simp [this]

end Scan
