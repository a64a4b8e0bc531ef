import Mathlib.Data.List.Induction

/-!
# Runs of a machine that answers each input

A machine is a step function `σ → ι → σ × ο`: a state and an input give the next
state and an answer.  `run` and `answers` are its state and its answers after a
list of inputs.

* `run_invariant`: what every step keeps holds after every run; `run_invariant_of_forall`: on inputs of a kind.
* `mem_answers_iff`: an answer of a run is the answer to one of its inputs, in the state reached before it.
* `answers_eq_of_rel`: two machines whose steps keep a relation and
  give the same answer are indistinguishable over every run.
* `run_part` / `answers_part`: a component of the state runs through what it sees of the inputs.
-/

namespace Machine

variable {σ τ ι κ ο ο' α : Type*}

/-- The state after the inputs. -/
def run (step : σ → ι → σ × ο) : σ → List ι → σ
  | s, [] => s
  | s, i :: is => run step (step s i).1 is

/-- The answers to the inputs, in order. -/
def answers (step : σ → ι → σ × ο) : σ → List ι → List ο
  | _, [] => []
  | s, i :: is => (step s i).2 :: answers step (step s i).1 is

variable (step : σ → ι → σ × ο)

@[simp] theorem run_nil (s : σ) : run step s [] = s := rfl

@[simp] theorem run_cons (s : σ) (i : ι) (is : List ι) :
    run step s (i :: is) = run step (step s i).1 is := rfl

theorem run_append (s : σ) (is js : List ι) :
    run step s (is ++ js) = run step (run step s is) js := by
  induction is generalizing s with
  | nil => rfl
  | cons i is ih => exact ih _

theorem run_concat (s : σ) (is : List ι) (i : ι) :
    run step s (is ++ [i]) = (step (run step s is) i).1 := by
  rw [run_append]
  rfl

@[simp] theorem answers_nil (s : σ) : answers step s [] = [] := rfl

@[simp] theorem answers_cons (s : σ) (i : ι) (is : List ι) :
    answers step s (i :: is) = (step s i).2 :: answers step (step s i).1 is := rfl

@[simp] theorem length_answers (s : σ) (is : List ι) : (answers step s is).length = is.length := by
  induction is generalizing s with
  | nil => rfl
  | cons i is ih => rw [answers_cons, List.length_cons, List.length_cons, ih]

theorem answers_append (s : σ) (is js : List ι) :
    answers step s (is ++ js) = answers step s is ++ answers step (run step s is) js := by
  induction is generalizing s with
  | nil => rfl
  | cons i is ih =>
    simp only [List.cons_append, answers_cons, run_cons]
    rw [ih]

/-- Every answer of a run is the answer to one of its inputs, in the state reached before it. -/
theorem mem_answers_iff {s : σ} {is : List ι} {o : ο} :
    o ∈ answers step s is ↔ ∃ before i after, is = before ++ i :: after ∧ o = (step (run step s before) i).2 := by
  induction is generalizing s with
  | nil => simp
  | cons i is ih =>
    rw [answers_cons, List.mem_cons, ih]
    constructor
    · rintro (rfl | ⟨before, j, after, rfl, rfl⟩)
      · exact ⟨[], i, is, rfl, rfl⟩
      · exact ⟨i :: before, j, after, rfl, rfl⟩
    · rintro ⟨before, j, after, hsplit, rfl⟩
      cases before with
      | nil =>
        obtain ⟨rfl, rfl⟩ := List.cons.inj hsplit
        exact .inl rfl
      | cons k before =>
        obtain ⟨rfl, rfl⟩ := List.cons.inj hsplit
        exact .inr ⟨before, j, after, rfl, rfl⟩

/-- What every step on such inputs keeps, every run on them keeps. -/
theorem run_invariant_of_forall {Inv : σ → Prop} {P : ι → Prop} (keep : ∀ s i, P i → Inv s → Inv (step s i).1)
    {s : σ} (h : Inv s) (is : List ι) (hP : ∀ i ∈ is, P i) : Inv (run step s is) := by
  induction is generalizing s with
  | nil => exact h
  | cons i is ih =>
    exact ih (keep s i (hP i List.mem_cons_self) h) (fun j hj => hP j (List.mem_cons_of_mem _ hj))

/-- What every step keeps, every run keeps. -/
theorem run_invariant {Inv : σ → Prop} (keep : ∀ s i, Inv s → Inv (step s i).1) {s : σ}
    (h : Inv s) (is : List ι) : Inv (run step s is) :=
  run_invariant_of_forall step (P := fun _ => True) (fun s i _ => keep s i) h is fun _ _ => trivial

section Relation

variable {step} {step' : τ → κ → τ × ο} {R : σ → τ → Prop} {f : ι → κ} {P : ι → Prop}

/-- Two machines in step that give the same answer to each input give the same answers. -/
theorem answers_eq_of_rel (keep : ∀ s t i, P i → R s t → R (step s i).1 (step' t (f i)).1)
    (same : ∀ s t i, P i → R s t → (step s i).2 = (step' t (f i)).2) {s : σ} {t : τ}
    (h : R s t) (is : List ι) (hP : ∀ i ∈ is, P i) :
    answers step s is = answers step' t (is.map f) := by
  induction is generalizing s t with
  | nil => rfl
  | cons i is ih =>
    have hi := hP i List.mem_cons_self
    simp only [List.map_cons, answers_cons, same s t i hi h]
    rw [ih (keep s t i hi h) (fun j hj => hP j (List.mem_cons_of_mem _ hj))]

end Relation

section Component

variable {part : σ → τ} {stepPart : τ → κ → τ × ο'} {sees : ι → Option κ} {P : σ → Prop}

/-- A part of the state that steps on what it sees of each input runs through what it sees of the whole run. -/
theorem run_part (keep : ∀ s i, P s → P (step s i).1)
    (hpart : ∀ s i, P s → part (step s i).1 = (sees i).elim (part s) fun k => (stepPart (part s) k).1)
    {s : σ} (h : P s) (is : List ι) : part (run step s is) = run stepPart (part s) (is.filterMap sees) := by
  induction is generalizing s with
  | nil => rfl
  | cons i is ih =>
    rw [run_cons, ih (keep s i h), hpart s i h, List.filterMap_cons]
    cases sees i <;> rfl

/-- Where the part alone answers, the answers are those to what it sees. -/
theorem answers_part (step : σ → ι → σ × List α) (f : ο' → List α) (keep : ∀ s i, P s → P (step s i).1)
    (hpart : ∀ s i, P s → part (step s i).1 = (sees i).elim (part s) fun k => (stepPart (part s) k).1)
    (hanswer : ∀ s i, P s → (step s i).2 = (sees i).elim [] fun k => f (stepPart (part s) k).2)
    {s : σ} (h : P s) (is : List ι) :
    (answers step s is).flatten = (answers stepPart (part s) (is.filterMap sees)).flatMap f := by
  induction is generalizing s with
  | nil => rfl
  | cons i is ih =>
    rw [answers_cons, List.flatten_cons, ih (keep s i h), hpart s i h, hanswer s i h,
      List.filterMap_cons]
    cases sees i <;> simp

end Component

end Machine
