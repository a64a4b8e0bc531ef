import AribcapDump.Clock.ProgramClock

/-!
# The clock as a function of the calls made

A history is the list of calls made on a fresh clock, latest first.  From it
alone one reads which PID is tracked, which PCR samples counted since that PID
was set, whether the last of them is a pending suspect, which PCR was accepted
last, and which TOT anchors the conversion.

    ptsToUnixMs (clock h) pts = some v
      ↔ pts has 33 bits, no pending suspect, and v computed from the last anchor of h

* `clock_eq`: the clock's fields are these functions of the history.
* `ptsToUnixMs_history`: the characterisation.
-/

namespace AribcapDump

/-- The calls made, latest first. -/
abbrev History := List ClockCall

/-- The PID of the last `SetPcrPid` that was not `PID_NULL`. -/
def trackedPid : History → Option PID
  | [] => none
  | .setPcrPid pid :: h => if pid = PID_NULL then trackedPid h else some pid
  | _ :: h => trackedPid h

/-- The call sets a PID other than the tracked one. -/
def changesPid (h : History) : ClockCall → Bool
  | .setPcrPid pid => decide (pid ≠ PID_NULL) && decide (trackedPid h ≠ some pid)
  | _ => false

/-- The samples that counted since the tracked PID was set, latest first. -/
def samples : History → List Sample
  | [] => []
  | .recordPcr packet :: h => (sample? (trackedPid h) packet).toList ++ samples h
  | call :: h => if changesPid h call then [] else samples h

section
variable [TSDuck]

/-- What samples, latest first, leave: the last accepted PCR, and whether the latest sample is a pending
suspect.  A sample out of the accepted series is held as suspect, unless it follows a pending suspect: then
it is accepted as the base of a new series. -/
def series : List Sample → Option Int × Bool
  | [] => (none, false)
  | s :: ss =>
    if s.outOfSeries (series ss).1 && !(series ss).2 then ((series ss).1, true)
    else (some s.pcr90k, false)

/-- The last accepted PCR on the tracked PID. -/
def accepted (h : History) : Option Int := (series (samples h)).1

/-- The latest sample on the tracked PID is a pending suspect. -/
def suspectPending (h : History) : Bool := (series (samples h)).2

/-- The clock after the calls of `h`. -/
def clock (h : History) : ProgramClock := Machine.run ProgramClock.step {} h.reverse

/-- The reference point a TOT gives after `h`: it is valid, its time converts, a PCR has been accepted on the
tracked PID and no suspect is pending. -/
def totReference (h : History) (tot : TOT) : Option ReferencePoint :=
  if tot.isValid = true ∧ suspectPending h = false then
    (jstTimeToUnixMs tot.utcTime).bind fun unixMs => (accepted h).map fun pcr90k => ⟨pcr90k, unixMs⟩
  else none

/-- The call ends what earlier TOTs gave: it changes the PCR PID, or is a `RecordPcr` that returns a
`PcrDiscontinuity`. -/
def disturbs (h : History) : ClockCall → Bool
  | .recordPcr packet => ((clock h).recordPcr packet).2.isSome
  | call => changesPid h call

/-- The TOT after `before` gives `reference`, and no call of `after` ends it. -/
structure Anchor (h before : History) (tot : TOT) (after : History) (reference : ReferencePoint) :
    Prop where
  split : h = after ++ .updateReferencePointFromTot tot :: before
  gives : totReference before tot = some reference
  undisturbed : ∀ later call earlier, after = later ++ call :: earlier →
    disturbs (earlier ++ .updateReferencePointFromTot tot :: before) call = false

/-- No later TOT of the history is an anchor. -/
structure LastAnchor (h before : History) (tot : TOT) (after : History) (reference : ReferencePoint) :
    Prop
    extends Anchor h before tot after reference where
  last : ∀ before' tot' after' reference', Anchor h before' tot' after' reference' →
    after.length ≤ after'.length

/-! ## The clock's fields -/

@[simp] theorem clock_nil : clock [] = {} := rfl

theorem clock_cons (call : ClockCall) (h : History) :
    clock (call :: h) = ((clock h).step call).1 := by
  unfold clock
  rw [List.reverse_cons, Machine.run_concat]

/-- The reference point the call gives after `h`. -/
def given (h : History) : ClockCall → Option ReferencePoint
  | .updateReferencePointFromTot tot => totReference h tot
  | _ => none

/-- The reference point the history leaves. -/
def keptReference : History → Option ReferencePoint
  | [] => none
  | call :: h => if disturbs h call then none else (given h call).or (keptReference h)

/-- The suspect count the history leaves. -/
def suspectCount (h : History) : ℕ := (suspectPending h).toNat

@[simp] theorem suspectCount_eq_zero {h : History} : suspectCount h = 0 ↔ suspectPending h = false := by
  simp [suspectCount, Bool.toNat_eq_zero]

/-- **The fields of the clock are functions of the history.** -/
theorem clock_eq (h : History) :
    clock h = ⟨trackedPid h, accepted h, keptReference h, suspectCount h⟩ := by
  induction h with
  | nil => rfl
  | cons call h ih =>
    rw [clock_cons]
    cases call with
    | ptsToUnixMs pts => exact ih
    | setPcrPid pid =>
      simp only [ProgramClock.step, ProgramClock.setPcrPid, ih, trackedPid, accepted, keptReference,
        suspectCount, suspectPending, samples, disturbs, changesPid, given]
      by_cases hnull : pid = PID_NULL
      · simp [hnull]
      · by_cases hsame : trackedPid h = some pid
        · simp [hnull, hsame]
        · simp [hnull, hsame, ProgramClock.clearSuspect, series]
    | updateReferencePointFromTot tot =>
      simp only [ProgramClock.step, ProgramClock.updateReferencePointFromTot_eq, ih,
        suspectCount_eq_zero]
      rfl
    | recordPcr packet =>
      have hpid : (clock h).pcrPid = trackedPid h := by rw [ih]
      have hlast : (clock h).lastPcr90k = accepted h := by rw [ih]
      cases hs : sample? (trackedPid h) packet with
      | none =>
        have hrec := ProgramClock.recordPcr_of_none (hpid ▸ hs)
        have hdist : disturbs h (.recordPcr packet) = false := by rw [disturbs, hrec, Option.isSome_none]
        simp only [ProgramClock.step, hrec, keptReference, hdist]
        rw [ih]
        simp [trackedPid, accepted, suspectCount, suspectPending, samples, hs, given]
      | some s =>
        have hrec := ProgramClock.recordPcr_of_some (hpid ▸ hs)
        have hdist : disturbs h (.recordPcr packet) = ((clock h).recordPcr packet).2.isSome := rfl
        rw [hlast, accepted] at hrec
        simp only [ProgramClock.step, keptReference, hdist, hrec, accepted, suspectCount,
          suspectPending, samples, hs, Option.toList_some, List.singleton_append, series]
        rw [ih]
        cases hflag : s.flagged with
        | true =>
          simp [Sample.outOfSeries, hflag, ProgramClock.adoptNewPcrSeries, ProgramClock.clearSuspect,
            trackedPid]
        | false =>
          cases s.outOfSeries (series (samples h)).1 <;> cases hsus : (series (samples h)).2 <;>
            simp [ProgramClock.handleSuspectPcrDiscontinuity_eq, trackedPid, given,
              ProgramClock.adoptNewPcrSeries, ProgramClock.clearSuspect, accepted, suspectCount, suspectPending, hsus]

/-! ## Anchors -/

@[simp] theorem disturbs_tot (h : History) (tot : TOT) :
    disturbs h (.updateReferencePointFromTot tot) = false := rfl

theorem Anchor.here {h : History} {tot : TOT} {r : ReferencePoint} (hr : totReference h tot = some r) :
    Anchor (.updateReferencePointFromTot tot :: h) h tot [] r :=
  ⟨rfl, hr, fun later call earlier hsplit => by simp at hsplit⟩

theorem Anchor.cons {h before after : History} {tot : TOT} {r : ReferencePoint} {call : ClockCall}
    (ha : Anchor h before tot after r) (hd : disturbs h call = false) :
    Anchor (call :: h) before tot (call :: after) r := by
  refine ⟨by rw [ha.split, List.cons_append], ha.gives, fun later call' earlier hsplit => ?_⟩
  cases later with
  | nil =>
    obtain ⟨rfl, rfl⟩ := List.cons.inj hsplit
    rw [← ha.split]
    exact hd
  | cons c later => exact ha.undisturbed later call' earlier (List.cons.inj hsplit).2

/-- An anchor of a longer history is its latest call, or an anchor that this call does not end. -/
theorem Anchor.cases_cons {h before after : History} {tot : TOT} {r : ReferencePoint} {call : ClockCall}
    (ha : Anchor (call :: h) before tot after r) :
    (after = [] ∧ before = h ∧ call = .updateReferencePointFromTot tot ∧ totReference h tot = some r) ∨
      ∃ after', after = call :: after' ∧ Anchor h before tot after' r ∧ disturbs h call = false := by
  obtain ⟨hsplit, hgives, hund⟩ := ha
  cases after with
  | nil =>
    obtain ⟨rfl, rfl⟩ := List.cons.inj hsplit
    exact .inl ⟨rfl, rfl, rfl, hgives⟩
  | cons c after =>
    obtain ⟨rfl, rfl⟩ := List.cons.inj hsplit
    refine .inr ⟨after, rfl, ⟨rfl, hgives, fun later call' earlier hs => ?_⟩, hund [] call after rfl⟩
    exact hund (call :: later) call' earlier (by rw [hs, List.cons_append])

theorem not_anchor_nil {before after : History} {tot : TOT} {r : ReferencePoint} :
    ¬ Anchor [] before tot after r := by
  rintro ⟨hsplit, -, -⟩
  simp at hsplit

/-- What the clock keeps is what the last anchor gives. -/
theorem keptReference_eq_some_iff (h : History) (r : ReferencePoint) :
    keptReference h = some r ↔ ∃ before tot after, LastAnchor h before tot after r := by
  induction h with
  | nil =>
    constructor
    · intro hr
      cases hr
    · rintro ⟨before, tot, after, hl⟩
      exact absurd hl.toAnchor not_anchor_nil
  | cons call h ih =>
    cases hgiven : given h call with
    | some r' =>
      -- the latest call is itself the last anchor
      obtain ⟨tot, rfl, hr'⟩ : ∃ tot, call = .updateReferencePointFromTot tot ∧ totReference h tot = some r' := by
        cases call with
        | updateReferencePointFromTot tot => exact ⟨tot, rfl, hgiven⟩
        | _ => cases hgiven
      have hanchor := Anchor.here hr'
      rw [keptReference, hgiven, disturbs_tot, Option.some_or, if_neg Bool.false_ne_true]
      constructor
      · rintro ⟨⟩
        exact ⟨h, tot, [], hanchor, fun _ _ _ _ _ => Nat.zero_le _⟩
      · rintro ⟨before, tot', after, hl⟩
        rcases hl.cases_cons with ⟨-, -, heq, hgives⟩ | ⟨after', rfl, -, -⟩
        · cases heq
          rw [← hr', hgives]
        · exact absurd (hl.last _ _ _ _ hanchor) (by simp)
    | none =>
      -- the anchors are those of `h`, unless the latest call ends them
      have hold : ∀ before tot after r', Anchor (call :: h) before tot after r' →
          ∃ after', after = call :: after' ∧ Anchor h before tot after' r' ∧ disturbs h call = false := by
        intro before tot after r' ha
        refine ha.cases_cons.resolve_left ?_
        rintro ⟨-, -, rfl, hgives⟩
        rw [given, hgives] at hgiven
        cases hgiven
      rw [keptReference, hgiven, Option.none_or]
      cases hd : disturbs h call with
      | true =>
        refine ⟨fun hr => (by cases hr), ?_⟩
        rintro ⟨before, tot, after, hl⟩
        obtain ⟨_, -, -, hd'⟩ := hold _ _ _ _ hl.toAnchor
        rw [hd] at hd'
        cases hd'
      | false =>
        rw [if_neg Bool.false_ne_true, ih]
        constructor
        · rintro ⟨before, tot, after, hl⟩
          refine ⟨before, tot, call :: after, hl.toAnchor.cons hd, fun b' t' a' r' ha' => ?_⟩
          obtain ⟨a'', rfl, ha'', -⟩ := hold _ _ _ _ ha'
          exact Nat.succ_le_succ (hl.last _ _ _ _ ha'')
        · rintro ⟨before, tot, after, hl⟩
          obtain ⟨after', rfl, ha, -⟩ := hold _ _ _ _ hl.toAnchor
          exact ⟨before, tot, after', ha, fun b' t' a' r' ha' =>
            Nat.le_of_succ_le_succ (hl.last _ _ _ _ (ha'.cons hd))⟩

/-- A history with an anchor leaves a reference point. -/
theorem Anchor.keptReference_isSome {h before after : History} {tot : TOT} {r : ReferencePoint}
    (ha : Anchor h before tot after r) : (keptReference h).isSome := by
  induction h generalizing after with
  | nil => exact absurd ha not_anchor_nil
  | cons call h ih =>
    rcases ha.cases_cons with ⟨-, rfl, rfl, hgives⟩ | ⟨after', rfl, ha', hd⟩
    · rw [keptReference, given, hgives]
      rfl
    · rw [keptReference, hd, if_neg Bool.false_ne_true, Option.isSome_or, ih ha', Bool.or_true]

/-! ## Top theorem -/

/-- The conversion through a reference point. -/
def ReferencePoint.convert (r : ReferencePoint) (pts90k : ℕ) : Int :=
  r.unixMs + Int.tdiv (wrapAwareDelta90k r.pcr90k pts90k * kMillisPerSecond) kPtsTicksPerSecond

theorem ptsToUnixMs_clock (h : History) (pts90k : ℕ) :
    (clock h).ptsToUnixMs pts90k =
      if pts90k < PTS_DTS_SCALE ∧ suspectPending h = false then (keptReference h).map (·.convert pts90k) else none := by
  have hmax : MAX_PTS_DTS < pts90k ↔ ¬ pts90k < PTS_DTS_SCALE := by
    unfold MAX_PTS_DTS PTS_DTS_SCALE
    omega
  rw [clock_eq, ProgramClock.ptsToUnixMs]
  simp only [suspectCount, hmax]
  cases keptReference h with
  | none => simp
  | some r => cases suspectPending h <;> by_cases hp : pts90k < PTS_DTS_SCALE <;> simp [hp, ReferencePoint.convert]

theorem clock_skip {later earlier : History} {call : ClockCall}
    (h : ((clock earlier).step call).1 = clock earlier) :
    clock (later ++ call :: earlier) = clock (later ++ earlier) := by
  induction later with
  | nil => rw [List.nil_append, List.nil_append, clock_cons, h]
  | cons c later ih => rw [List.cons_append, List.cons_append, clock_cons, clock_cons, ih]

/-- **`PtsToUnixMs` from the history.**  It has a value exactly when the PTS has 33 bits, no suspect is pending
and some TOT anchors the conversion; the value comes from the last such TOT and the last PCR accepted before
it; and a `SetPcrPid` with the tracked PID or `PID_NULL` changes nothing. -/
theorem ptsToUnixMs_history (h : History) (pts90k : ℕ) :
    (((clock h).ptsToUnixMs pts90k).isSome ↔
      pts90k < PTS_DTS_SCALE ∧ suspectPending h = false ∧ ∃ before tot after r, Anchor h before tot after r) ∧
    (∀ unixMs, (clock h).ptsToUnixMs pts90k = some unixMs →
      ∃ before tot after r, LastAnchor h before tot after r ∧ unixMs = r.convert pts90k) ∧
    (∀ later pid earlier, h = later ++ .setPcrPid pid :: earlier →
      pid = PID_NULL ∨ trackedPid earlier = some pid → clock h = clock (later ++ earlier)) := by
  refine ⟨?_, ?_, ?_⟩
  · rw [ptsToUnixMs_clock]
    constructor
    · intro hsome
      split at hsome
      · next hcond =>
        obtain ⟨r, hr⟩ := Option.isSome_iff_exists.mp (Option.isSome_map .. ▸ hsome)
        obtain ⟨before, tot, after, hl⟩ := (keptReference_eq_some_iff h r).mp hr
        exact ⟨hcond.1, hcond.2, before, tot, after, r, hl.toAnchor⟩
      · cases hsome
    · rintro ⟨hpts, hsus, before, tot, after, r, ha⟩
      rw [if_pos ⟨hpts, hsus⟩, Option.isSome_map]
      exact ha.keptReference_isSome
  · intro unixMs hv
    rw [ptsToUnixMs_clock] at hv
    split at hv
    · obtain ⟨r, hr, hconv⟩ := Option.map_eq_some_iff.mp hv
      obtain ⟨before, tot, after, hl⟩ := (keptReference_eq_some_iff h r).mp hr
      exact ⟨before, tot, after, r, hl, hconv.symm⟩
    · cases hv
  · rintro later pid earlier rfl hpid
    refine clock_skip ?_
    rw [ProgramClock.step, ProgramClock.setPcrPid, clock_eq]
    rcases hpid with rfl | hsame
    · rw [if_pos rfl]
    · simp [hsame]

end

end AribcapDump
