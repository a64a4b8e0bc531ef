import Mathlib.Tactic.Common
import Mathlib.Tactic.TypeStar

/-!
# Loops over the entries of a map

A loop over a map whose body, at a key, touches what is observed at that key
only: after the loop each key that is in the map has been touched once, with its
own value, and every other key is as before.
-/

namespace MapFold

variable {σ κ β γ : Type*} {cmp : κ → κ → Ordering}

/-- What the body keeps at every entry of the map, the loop keeps. -/
theorem foldl_keeps_of_mem [Std.TransCmp cmp] [Std.LawfulEqCmp cmp] (f : σ → κ → β → σ) {P : σ → Prop}
    (map : Std.ExtTreeMap κ β cmp) (keep : ∀ s k v, map[k]? = some v → P s → P (f s k v)) {s : σ} (h : P s) :
    P (map.foldl f s) := by
  have hentries : ∀ entries : List (κ × β), (∀ p ∈ entries, map[p.1]? = some p.2) → ∀ s, P s →
      P (entries.foldl (fun s p => f s p.1 p.2) s) := by
    intro entries
    induction entries with
    | nil => exact fun _ s h => h
    | cons p entries ih =>
      intro hmap s h
      obtain ⟨hp, hmap⟩ := List.forall_mem_cons.mp hmap
      exact ih hmap _ (keep s p.1 p.2 hp h)
  rw [Std.ExtTreeMap.foldl_eq_foldl_toList]
  refine hentries _ ?_ s h
  rintro ⟨k, v⟩ hp
  exact Std.ExtTreeMap.mem_toList_iff_getElem?_eq_some.mp hp

section
variable (f : σ → κ → β → σ) {P : σ → Prop} (obs : σ → κ → γ) (touch : γ → κ → β → γ)
  (keep : ∀ s k v, P s → P (f s k v))
  (own : ∀ s k v, P s → obs (f s k v) k = touch (obs s k) k v)
  (other : ∀ s k v a, P s → k ≠ a → obs (f s k v) a = obs s a)
include keep

/-- What the body keeps, the loop keeps. -/
theorem foldl_keeps [Std.TransCmp cmp] {s : σ} (h : P s) (map : Std.ExtTreeMap κ β cmp) :
    P (map.foldl f s) := by
  rw [Std.ExtTreeMap.foldl_eq_foldl_toList]
  induction map.toList generalizing s with
  | nil => exact h
  | cons p entries ih => exact ih (keep s _ _ h)

include other

theorem obs_foldl_of_not_mem {s : σ} (h : P s) (entries : List (κ × β)) (a : κ)
    (hnot : ∀ p ∈ entries, p.1 ≠ a) : obs (entries.foldl (fun s p => f s p.1 p.2) s) a = obs s a := by
  induction entries generalizing s with
  | nil => rfl
  | cons p entries ih =>
    rw [List.foldl_cons, ih (keep s _ _ h) fun q hq => hnot q (List.mem_cons_of_mem _ hq)]
    exact other s _ _ a h (hnot p List.mem_cons_self)

include own

theorem obs_foldl_of_mem {s : σ} (h : P s) (entries : List (κ × β))
    (hdistinct : entries.Pairwise fun p q => p.1 ≠ q.1) (a : κ) (v : β) (hmem : (a, v) ∈ entries) :
    obs (entries.foldl (fun s p => f s p.1 p.2) s) a = touch (obs s a) a v := by
  induction entries generalizing s with
  | nil => cases hmem
  | cons p entries ih =>
    rw [List.pairwise_cons] at hdistinct
    rw [List.foldl_cons]
    rcases List.mem_cons.mp hmem with hhead | htail
    · subst hhead
      rw [obs_foldl_of_not_mem f obs keep other (keep s _ _ h) _ _ fun q hq => (hdistinct.1 q hq).symm]
      exact own s a v h
    · rw [ih (keep s _ _ h) hdistinct.2 htail, other s _ _ a h (hdistinct.1 _ htail)]

/-- **After the loop**, each key of the map is touched with its own value. -/
theorem obs_foldl [Std.TransCmp cmp] [Std.LawfulEqCmp cmp] {s : σ} (h : P s)
    (map : Std.ExtTreeMap κ β cmp) (a : κ) :
    obs (map.foldl f s) a = map[a]?.elim (obs s a) (touch (obs s a) a) := by
  rw [Std.ExtTreeMap.foldl_eq_foldl_toList]
  cases hvalue : map[a]? with
  | none =>
    refine obs_foldl_of_not_mem f obs keep other h _ a ?_
    rintro ⟨k, v⟩ hp rfl
    rw [Std.ExtTreeMap.mem_toList_iff_getElem?_eq_some, hvalue] at hp
    cases hp
  | some v =>
    refine obs_foldl_of_mem f obs touch keep own other h _ ?_ a v
      (Std.ExtTreeMap.mem_toList_iff_getElem?_eq_some.mpr hvalue)
    refine map.distinct_keys_toList.imp ?_
    intro p q hne heq
    exact hne (Std.LawfulEqCmp.compare_eq_iff_eq.mpr heq)

end

end MapFold
