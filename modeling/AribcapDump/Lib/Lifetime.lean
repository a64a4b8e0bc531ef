import AribcapDump.Lib.Channels

/-!
# A part of the state that comes and goes

A part of a machine's state that may be absent.  A step starts it anew, ends it,
or keeps it; a part that is kept may hear something and step on it, as a machine
of its own.

* `part_run_of_kept`: what a part becomes while it is kept.
* `part_run_eq_some_iff`: a part that is there was started at one of the inputs, and has been kept since.
* `answersTo_of_kept`: its answers while it is kept.
-/

namespace Machine

variable {σ τ ι κ ο ο' : Type*}

/-- What a step does to a part. -/
inductive Change (τ κ : Type*)
  | start (fresh : τ)
  | stop
  | keep (hears : Option κ)

/-- The part after a change. -/
def Change.apply (stepPart : τ → κ → τ × ο') (current : Option τ) : Change τ κ → Option τ
  | .start fresh => some fresh
  | .stop => none
  | .keep hears => current.map fun t => hears.elim t fun k => (stepPart t k).1

variable (step : σ → ι → σ × ο) (change : σ → ι → Change τ κ)

/-- Every input keeps the part. -/
def Kept : σ → List ι → Prop
  | _, [] => True
  | s, i :: is => (∃ hears, change s i = .keep hears) ∧ Kept (step s i).1 is

/-- What a part hears of the inputs. -/
def heard : σ → List ι → List κ
  | _, [] => []
  | s, i :: is =>
    match change s i with
    | .keep (some k) => k :: heard (step s i).1 is
    | _ => heard (step s i).1 is

variable {step change}

theorem kept_append {s : σ} {is js : List ι} :
    Kept step change s (is ++ js) ↔ Kept step change s is ∧ Kept step change (run step s is) js := by
  induction is generalizing s with
  | nil => simp [Kept]
  | cons i is ih => rw [List.cons_append, Kept, Kept, ih, run_cons, and_assoc]

theorem heard_append (s : σ) (is js : List ι) :
    heard step change s (is ++ js) = heard step change s is ++ heard step change (run step s is) js := by
  induction is generalizing s with
  | nil => rfl
  | cons i is ih =>
    rw [List.cons_append, heard, heard, ih, run_cons]
    split <;> rfl

section Part

variable (part : σ → Option τ) {stepPart : τ → κ → τ × ο'}
  (hpart : ∀ s i, part (step s i).1 = (change s i).apply stepPart (part s))
include hpart

/-- **A part that is kept** runs on what it hears. -/
theorem part_run_of_kept {s : σ} {is : List ι} (hkept : Kept step change s is) :
    part (run step s is) = (part s).map fun t => run stepPart t (heard step change s is) := by
  induction is generalizing s with
  | nil => simp [heard]
  | cons i is ih =>
    obtain ⟨⟨hears, hchange⟩, hrest⟩ := hkept
    rw [run_cons, ih hrest, hpart, hchange, heard, hchange, Change.apply, Option.map_map]
    cases hears <;> rfl

/-- **A part that is there** was started at one of the inputs, has been kept by all the inputs since, and has run on what
it heard of them. -/
theorem part_run_eq_some_iff {s : σ} (hnone : part s = none) {is : List ι} {t : τ} :
    part (run step s is) = some t ↔ ∃ before i after fresh, is = before ++ i :: after ∧
      change (run step s before) i = .start fresh ∧ Kept step change (run step s (before ++ [i])) after ∧
      t = run stepPart fresh (heard step change (run step s (before ++ [i])) after) := by
  constructor
  · intro hsome
    induction is using List.reverseRecOn generalizing t with
    | nil => simp [hnone] at hsome
    | append_singleton is j ih =>
      rw [run_concat, hpart] at hsome
      cases hchange : change (run step s is) j with
      | start fresh =>
        rw [hchange] at hsome
        exact ⟨is, j, [], fresh, rfl, hchange, trivial, (Option.some.inj hsome).symm⟩
      | stop =>
        rw [hchange] at hsome
        cases hsome
      | keep hears =>
        rw [hchange, Change.apply] at hsome
        obtain ⟨t', hbefore, rfl⟩ := Option.map_eq_some_iff.mp hsome
        obtain ⟨before, i, after, fresh, rfl, hstart, hkept, rfl⟩ := ih hbefore
        have hrun : run step (run step s (before ++ [i])) after = run step s (before ++ i :: after) := by
          rw [← run_append, List.append_assoc, List.singleton_append]
        refine ⟨before, i, after ++ [j], fresh, by simp, hstart, ?_, ?_⟩
        · rw [kept_append, hrun]
          exact ⟨hkept, ⟨hears, hchange⟩, trivial⟩
        · have hheard : heard step change (run step s (before ++ [i])) (after ++ [j]) =
              heard step change (run step s (before ++ [i])) after ++ hears.toList := by
            rw [heard_append, hrun, heard, hchange]
            cases hears <;> rfl
          rw [hheard, run_append stepPart]
          cases hears <;> rfl
  · rintro ⟨before, i, after, fresh, rfl, hstart, hkept, rfl⟩
    have hstarted : part (run step s (before ++ [i])) = some fresh := by
      rw [run_concat, hpart, hstart, Change.apply]
    have hrun : run step s (before ++ i :: after) = run step (run step s (before ++ [i])) after := by
      rw [← run_append, List.append_assoc, List.singleton_append]
    rw [hrun, part_run_of_kept part hpart hkept, hstarted, Option.map_some]

/-- The answers to what a part hears, while it is kept, are its own. -/
theorem answersTo_of_kept {p : ι → Bool} {f : ο' → ο}
    (hanswer : ∀ s i k t, part s = some t → change s i = .keep (some k) → (step s i).2 = f (stepPart t k).2)
    (hhears : ∀ s i hears, change s i = .keep hears → p i = hears.isSome) {s : σ} {t : τ} (hsome : part s = some t)
    {is : List ι} (hkept : Kept step change s is) :
    answersTo p step s is = (answers stepPart t (heard step change s is)).map f := by
  induction is generalizing s t with
  | nil => rfl
  | cons i is ih =>
    obtain ⟨⟨hears, hchange⟩, hrest⟩ := hkept
    have hnext := hpart s i
    rw [hchange, Change.apply, hsome, Option.map_some] at hnext
    rw [answersTo_cons, hhears s i hears hchange, ih hnext hrest, heard, hchange]
    cases hears with
    | none => rfl
    | some k =>
      rw [hanswer s i k t hsome hchange]
      rfl

end Part

end Machine
