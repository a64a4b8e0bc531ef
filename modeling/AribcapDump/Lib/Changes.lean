import Mathlib.Tactic.TypeStar

/-!
# Where a sequence changes

`changes key xs` keeps the elements of `xs` whose key differs from that of the
element just before them; the first is always kept.  A filter that remembers the
last key computes it element by element (`changesFrom`).
-/

namespace Changes

variable {α β κ : Type*} [DecidableEq κ]

/-- Each element with the one just before it. -/
def withPrevious (xs : List α) : List (Option α × α) := (none :: xs.map some).zip xs

/-- The elements whose key is not that of the one just before. -/
def changes (key : α → κ) (xs : List α) : List α :=
  ((withPrevious xs).filter fun p => decide (p.1.map key ≠ some (key p.2))).map Prod.snd

/-- The same with the last key remembered. -/
def changesFrom (key : α → κ) : Option κ → List α → List α
  | _, [] => []
  | last, x :: xs =>
    if last = some (key x) then changesFrom key last xs else x :: changesFrom key (some (key x)) xs

theorem changesFrom_eq (key : α → κ) (previous : Option α) (xs : List α) :
    changesFrom key (previous.map key) xs =
      (((previous :: xs.map some).zip xs).filter fun p => decide (p.1.map key ≠ some (key p.2))).map Prod.snd := by
  induction xs generalizing previous with
  | nil => rfl
  | cons x xs ih =>
    have hrest := ih (some x)
    rw [Option.map_some] at hrest
    rw [changesFrom, List.map_cons, List.zip_cons_cons, List.filter_cons]
    by_cases hsame : previous.map key = some (key x)
    · rw [if_pos hsame, hsame, hrest]
      simp
    · rw [if_neg hsame, hrest]
      simp [hsame]

theorem changes_eq (key : α → κ) (xs : List α) : changes key xs = changesFrom key none xs :=
  (changesFrom_eq key none xs).symm

theorem changesFrom_map (f : β → α) (key : α → κ) (last : Option κ) (xs : List β) :
    changesFrom key last (xs.map f) = (changesFrom (key ∘ f) last xs).map f := by
  induction xs generalizing last with
  | nil => rfl
  | cons x xs ih =>
    rw [List.map_cons, changesFrom, changesFrom, Function.comp_apply]
    split
    · exact ih last
    · rw [List.map_cons, ih]

theorem changes_map (f : β → α) (key : α → κ) (xs : List β) :
    changes key (xs.map f) = (changes (key ∘ f) xs).map f := by
  rw [changes_eq, changes_eq, changesFrom_map]

theorem mem_of_mem_changes {key : α → κ} {xs : List α} {x : α} (h : x ∈ changes key xs) : x ∈ xs := by
  unfold changes withPrevious at h
  obtain ⟨p, hp, rfl⟩ := List.mem_map.mp h
  exact (List.of_mem_zip (List.mem_filter.mp hp).1).2

end Changes
