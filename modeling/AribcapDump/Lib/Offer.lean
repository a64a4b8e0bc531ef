import AribcapDump.Lib.Machine

/-!
# Offering a list to a consumer that may stop

A consumer `h : σ → α → σ × Bool` takes one item and says whether it wants more.
`offer h s xs` offers the items of `xs` until the first refusal: the state it
ends in, the items it was handed (the refused one included) and whether it took
them all.

* `offer_append`: offering two lists is offering the second where the first ended.
* `offer_handed_prefix`: what was handed over is a prefix.
* `offer_of_forall`: a consumer that never refuses is handed everything.
* `answers_handed`: it answers yes to what it is handed, up to the last.
-/

namespace Offer

variable {σ α : Type*}

/-- What an offer leaves: the consumer's state, the items handed over, whether none was refused. -/
structure Result (σ α : Type*) where
  state : σ
  handed : List α
  accepted : Bool

/-- Offer the items in order, up to the first refusal. -/
def offer (h : σ → α → σ × Bool) : σ → List α → Result σ α
  | s, [] => ⟨s, [], true⟩
  | s, x :: xs =>
    if (h s x).2 then
      ⟨(offer h (h s x).1 xs).state, x :: (offer h (h s x).1 xs).handed, (offer h (h s x).1 xs).accepted⟩
    else ⟨(h s x).1, [x], false⟩

variable (h : σ → α → σ × Bool)

@[simp] theorem offer_nil (s : σ) : offer h s [] = ⟨s, [], true⟩ := rfl

theorem offer_cons_of_accept (s : σ) (x : α) (xs : List α) (hx : (h s x).2 = true) :
    offer h s (x :: xs) = ⟨(offer h (h s x).1 xs).state, x :: (offer h (h s x).1 xs).handed,
      (offer h (h s x).1 xs).accepted⟩ := by
  rw [offer, if_pos hx]

theorem offer_cons_of_refuse (s : σ) (x : α) (xs : List α) (hx : (h s x).2 = false) :
    offer h s (x :: xs) = ⟨(h s x).1, [x], false⟩ := by
  rw [offer, if_neg (by simp [hx])]

/-- After a full offer the next list goes on from its state. -/
theorem offer_append_of_accepted (s : σ) (xs ys : List α) (ha : (offer h s xs).accepted = true) :
    offer h s (xs ++ ys) = ⟨(offer h (offer h s xs).state ys).state,
      (offer h s xs).handed ++ (offer h (offer h s xs).state ys).handed,
      (offer h (offer h s xs).state ys).accepted⟩ := by
  induction xs generalizing s with
  | nil => rfl
  | cons x xs ih =>
    cases hx : (h s x).2 with
    | false => rw [offer_cons_of_refuse h s x xs hx] at ha; cases ha
    | true =>
      rw [offer_cons_of_accept h s x xs hx] at ha ⊢
      rw [List.cons_append, offer_cons_of_accept h s x _ hx, ih _ ha]
      rfl

/-- After a refusal nothing more is offered. -/
theorem offer_append_of_refused (s : σ) (xs ys : List α) (ha : (offer h s xs).accepted = false) :
    offer h s (xs ++ ys) = offer h s xs := by
  induction xs generalizing s with
  | nil => cases ha
  | cons x xs ih =>
    rw [List.cons_append]
    cases hx : (h s x).2 with
    | false => rw [offer_cons_of_refuse h s x _ hx, offer_cons_of_refuse h s x _ hx]
    | true =>
      rw [offer_cons_of_accept h s x _ hx] at ha ⊢
      rw [offer_cons_of_accept h s x _ hx, ih _ ha]

theorem offer_handed_of_accepted (s : σ) (xs : List α) (ha : (offer h s xs).accepted = true) :
    (offer h s xs).handed = xs := by
  induction xs generalizing s with
  | nil => rfl
  | cons x xs ih =>
    cases hx : (h s x).2 with
    | false => rw [offer_cons_of_refuse h s x xs hx] at ha; cases ha
    | true =>
      rw [offer_cons_of_accept h s x xs hx] at ha ⊢
      rw [ih _ ha]

/-- What is handed over is a prefix of what is offered. -/
theorem offer_handed_prefix (s : σ) (xs : List α) : (offer h s xs).handed <+: xs := by
  induction xs generalizing s with
  | nil => exact List.prefix_refl _
  | cons x xs ih =>
    cases hx : (h s x).2 with
    | false =>
      rw [offer_cons_of_refuse h s x xs hx]
      exact ⟨xs, rfl⟩
    | true =>
      rw [offer_cons_of_accept h s x xs hx]
      exact (List.prefix_cons_inj x).mpr (ih _)

theorem offer_accepted_of_forall (hh : ∀ s x, (h s x).2 = true) (s : σ) (xs : List α) :
    (offer h s xs).accepted = true := by
  induction xs generalizing s with
  | nil => rfl
  | cons x xs ih =>
    rw [offer_cons_of_accept h s x xs (hh s x)]
    exact ih _

/-- A consumer that never refuses is handed everything. -/
theorem offer_of_forall (hh : ∀ s x, (h s x).2 = true) (s : σ) (xs : List α) :
    (offer h s xs).handed = xs :=
  offer_handed_of_accepted h s xs (offer_accepted_of_forall h hh s xs)

/-! ## The consumer as a machine -/

theorem run_handed (s : σ) (xs : List α) : Machine.run h s (offer h s xs).handed = (offer h s xs).state := by
  induction xs generalizing s with
  | nil => rfl
  | cons x xs ih =>
    cases hx : (h s x).2 with
    | false => rw [offer_cons_of_refuse h s x xs hx, Machine.run_cons, Machine.run_nil]
    | true => rw [offer_cons_of_accept h s x xs hx, Machine.run_cons, ih]

/-- Its answers to what it is handed: yes, and no to the last if one was refused. -/
theorem answers_handed (s : σ) (xs : List α) :
    ∃ n, Machine.answers h s (offer h s xs).handed =
      List.replicate n true ++ if (offer h s xs).accepted then [] else [false] := by
  induction xs generalizing s with
  | nil => exact ⟨0, rfl⟩
  | cons x xs ih =>
    cases hx : (h s x).2 with
    | false =>
      refine ⟨0, ?_⟩
      rw [offer_cons_of_refuse h s x xs hx, Machine.answers_cons, hx]
      rfl
    | true =>
      obtain ⟨n, hn⟩ := ih (h s x).1
      refine ⟨n + 1, ?_⟩
      rw [offer_cons_of_accept h s x xs hx, Machine.answers_cons, hn, hx, List.replicate_succ, List.cons_append]

theorem false_mem_answers_iff (s : σ) (xs : List α) :
    false ∈ Machine.answers h s (offer h s xs).handed ↔ (offer h s xs).accepted = false := by
  obtain ⟨n, hn⟩ := answers_handed h s xs
  rw [hn]
  cases (offer h s xs).accepted <;> simp

/-- After a refusal it is handed nothing. -/
theorem false_notMem_dropLast (s : σ) (xs : List α) :
    false ∉ (Machine.answers h s (offer h s xs).handed).dropLast := by
  obtain ⟨n, hn⟩ := answers_handed h s xs
  rw [hn]
  cases (offer h s xs).accepted <;> simp [List.dropLast_replicate]

end Offer
