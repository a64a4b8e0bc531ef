import AribcapDump.Lib.Machine

/-!
# The answers to some of the inputs

`answersTo p step s is` are the answers of a run to those inputs that satisfy
`p`.  Where they come from a part of the state, and that part steps on what it
sees of each input, they are the answers of a smaller machine to what it sees.

* `answersTo_part`: the answers from a part of the state.
* `answersTo_eq_of_sees`: what the part does not see has no influence on them.
* `flatten_filter_answers`: they can be picked from all answers, where each item says what it answers.
-/

namespace Machine

variable {σ τ ι κ ο : Type*}

/-- The answers to the inputs that satisfy `p`, in order. -/
def answersTo (p : ι → Bool) (step : σ → ι → σ × ο) : σ → List ι → List ο
  | _, [] => []
  | s, i :: is =>
    if p i then (step s i).2 :: answersTo p step (step s i).1 is else answersTo p step (step s i).1 is

variable {p : ι → Bool} {step : σ → ι → σ × ο}

theorem answersTo_cons (s : σ) (i : ι) (is : List ι) :
    answersTo p step s (i :: is) = (if p i then [(step s i).2] else []) ++ answersTo p step (step s i).1 is := by
  rw [answersTo]
  split <;> rfl

section Part

variable (part : σ → τ) {stepPart : τ → κ → τ × ο} {sees : ι → Option κ} {q : κ → Bool} {P : σ → Prop}
  (keep : ∀ s i, P s → P (step s i).1)
  (hpart : ∀ s i, P s → part (step s i).1 = (sees i).elim (part s) fun k => (stepPart (part s) k).1)
  (hmine : ∀ s i, P s → p i = true → ∃ k, sees i = some k ∧ q k = true ∧ (step s i).2 = (stepPart (part s) k).2)
  (hother : ∀ i k, p i = false → sees i = some k → q k = false)
include keep hpart hmine hother

/-- **The answers from a part of the state** are those of the part alone, to what it sees of the run. -/
theorem answersTo_part {s : σ} (h : P s) (is : List ι) :
    answersTo p step s is = answersTo q stepPart (part s) (is.filterMap sees) := by
  induction is generalizing s with
  | nil => rfl
  | cons i is ih =>
    rw [answersTo_cons, ih (keep s i h), hpart s i h, List.filterMap_cons]
    cases hp : p i with
    | true =>
      obtain ⟨k, hsees, hq, hanswer⟩ := hmine s i h hp
      rw [hsees, hanswer]
      simp only [answersTo_cons, hq, Option.elim_some]
    | false =>
      cases hsees : sees i with
      | none => rfl
      | some k => simp only [answersTo_cons, hother i k hp hsees, Option.elim_some, Bool.false_eq_true, if_false]

/-- Two runs that look the same to the part give the same answers. -/
theorem answersTo_eq_of_sees {s : σ} (h : P s) {is js : List ι} (hsame : is.filterMap sees = js.filterMap sees) :
    answersTo p step s is = answersTo p step s js := by
  rw [answersTo_part part keep hpart hmine hother h, answersTo_part part keep hpart hmine hother h, hsame]

end Part

/-- The answers to the inputs that satisfy `p` are told by their items, where these say which input they answer. -/
theorem flatten_filter_answers {α : Type*} {step : σ → ι → σ × List α} {r : α → Bool} {P : σ → Prop}
    (keep : ∀ s i, P s → P (step s i).1) (htold : ∀ s i, P s → ∀ a ∈ (step s i).2, r a = p i) {s : σ} (h : P s)
    (is : List ι) : (answers step s is).flatten.filter r = (answersTo p step s is).flatten := by
  induction is generalizing s with
  | nil => rfl
  | cons i is ih =>
    have hhead : (step s i).2.filter r = if p i then (step s i).2 else [] := by
      rw [List.filter_congr (htold s i h)]
      cases p i <;> simp
    rw [answers_cons, List.flatten_cons, List.filter_append, ih (keep s i h), hhead, answersTo_cons]
    cases p i <;> simp

end Machine
