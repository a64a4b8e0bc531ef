import AribcapDump.Clock.Glitches
import AribcapDump.Clock.History
import AribcapDump.Clock.Shift
import Mathlib.Data.List.Chain

/-!
# A permanent PCR jump

The PCR jumps, unflagged, out of the series and stays there.  The first sample is
held as suspect, the second is reported and becomes the base of a new series,
and no time is given until a TOT has been paired with a PCR of that series.

* `run_quiet`: between samples the clock keeps what it knows of the series.
* `InNewSeries.step`: after the second sample, one call at a time.
* `permanentJump`: the whole run.
-/

namespace AribcapDump

/-- The sample a call records while `pid` is tracked. -/
def ClockCall.sample? (pid : PID) : ClockCall → Option Sample
  | .recordPcr packet => AribcapDump.sample? (some pid) packet
  | _ => none

/-- The calls keep the PID `pid`, and the samples they record on it are unflagged with the PCRs `pcrs`. -/
structure Carries (pid : PID) (calls : List ClockCall) (pcrs : List Int) : Prop where
  keepsPid : ∀ other, .setPcrPid other ∈ calls → other = PID_NULL ∨ other = pid
  samples : calls.filterMap (ClockCall.sample? pid) = pcrs.map (⟨·, false⟩)

/-- `b` is at most one second after `a`, around the wrap. -/
def ContinuesSeries (a b : Int) : Prop := Wrap.forward PTS_DTS_SCALE a b ≤ kMaxSanePcrDelta90k

def ClockAnswer.discontinuity? : ClockAnswer → Option PcrDiscontinuity
  | .discontinuity result => result
  | _ => none

section
variable [TSDuck]

/-- `pcr90k` is out of the series of `last`. -/
def JumpsFrom (last pcr90k : Int) : Prop :=
  wrapAwareDelta90k last pcr90k < 0 ∨ kMaxSanePcrDelta90k < wrapAwareDelta90k last pcr90k

/-- A TOT that is valid and whose time converts. -/
def TOT.Usable (tot : TOT) : Prop := tot.isValid = true ∧ (jstTimeToUnixMs tot.utcTime).isSome = true

/-- The latest PCR on `pid` that the calls recorded, `first` before any. -/
def latestPcr (pid : PID) (first : Int) (calls : List ClockCall) : Int :=
  (calls.filterMap (ClockCall.sample? pid)).getLast?.elim first Sample.pcr90k

/-- `tot` is the last usable TOT of the calls, and `reference` pairs its time with the PCR latest then. -/
structure PairedAt (pid : PID) (first : Int) (calls earlier : List ClockCall) (tot : TOT) (later : List ClockCall)
    (reference : ReferencePoint) : Prop where
  split : calls = earlier ++ .updateReferencePointFromTot tot :: later
  isValid : tot.isValid = true
  time : jstTimeToUnixMs tot.utcTime = some reference.unixMs
  pcr : reference.pcr90k = latestPcr pid first earlier
  last : ∀ other, .updateReferencePointFromTot other ∈ later → ¬ other.Usable

variable {c : ProgramClock} {pid : PID} {first : Int} {calls : List ClockCall} {call : ClockCall}

/-! ## Between samples -/

omit [TSDuck] in
theorem Carries.of_append {earlier later : List ClockCall} {pcrs : List Int}
    (h : Carries pid (earlier ++ later) pcrs) :
    ∃ before after, pcrs = before ++ after ∧ Carries pid earlier before ∧ Carries pid later after := by
  have hsamples := h.samples
  rw [List.filterMap_append] at hsamples
  obtain ⟨before, after, hpcrs, hbefore, hafter⟩ := List.map_eq_append_iff.mp hsamples.symm
  refine ⟨before, after, hpcrs, ⟨?_, hbefore.symm⟩, ⟨?_, hafter.symm⟩⟩
  · intro other hmem
    exact h.keepsPid other (List.mem_append_left _ hmem)
  · intro other hmem
    exact h.keepsPid other (List.mem_append_right _ hmem)

/-- A call that records no sample and keeps the PID changes nothing, unless it is a TOT. -/
theorem step_quiet (hpid : c.pcrPid = some pid) (hquiet : Carries pid [call] []) :
    (c.step call).2.discontinuity? = none ∧
      ((c.step call).1 = c ∨ ∃ tot, call = .updateReferencePointFromTot tot) := by
  cases call with
  | setPcrPid other =>
    refine ⟨rfl, .inl ?_⟩
    have hother := hquiet.keepsPid other (List.mem_singleton_self _)
    show c.setPcrPid other = c
    unfold ProgramClock.setPcrPid
    rcases hother with rfl | rfl
    · rw [if_pos rfl]
    · rw [hpid, if_pos rfl]
      split <;> rfl
  | recordPcr packet =>
    have hnone : sample? c.pcrPid packet = none := by
      have hsamples := hquiet.samples
      rw [hpid]
      simpa [ClockCall.sample?] using hsamples
    refine ⟨?_, .inl ?_⟩
    · show (c.recordPcr packet).2 = none
      rw [ProgramClock.recordPcr_of_none hnone]
    · show (c.recordPcr packet).1 = c
      rw [ProgramClock.recordPcr_of_none hnone]
  | updateReferencePointFromTot tot => exact ⟨rfl, .inr ⟨tot, rfl⟩⟩
  | ptsToUnixMs pts90k => exact ⟨rfl, .inl rfl⟩

/-- Between samples the clock keeps what it knows of the series. -/
theorem run_quiet (hpid : c.pcrPid = some pid) (hquiet : Carries pid calls []) :
    (Machine.answers ProgramClock.step c calls).filterMap ClockAnswer.discontinuity? = [] ∧
      ∃ reference, Machine.run ProgramClock.step c calls = { c with referencePoint := reference } := by
  induction calls generalizing c with
  | nil => exact ⟨rfl, c.referencePoint, rfl⟩
  | cons call calls ih =>
    have hcons : Carries pid ([call] ++ calls) [] := hquiet
    obtain ⟨before, after, hpcrs, hcall, hcalls⟩ := hcons.of_append
    obtain ⟨rfl, rfl⟩ := List.append_eq_nil_iff.mp hpcrs.symm
    obtain ⟨hanswer, hstep⟩ := step_quiet hpid hcall
    have hreference : ∃ reference, (c.step call).1 = { c with referencePoint := reference } := by
      rcases hstep with hsame | ⟨tot, rfl⟩
      · exact ⟨c.referencePoint, hsame⟩
      · exact ⟨_, ProgramClock.updateReferencePointFromTot_eq c tot⟩
    obtain ⟨reference, hstep⟩ := hreference
    have hpid' : (c.step call).1.pcrPid = some pid := by
      rw [hstep]
      exact hpid
    obtain ⟨hanswers, reference', hrun⟩ := ih hpid' hcalls
    constructor
    · rw [Machine.answers_cons, List.filterMap_cons, hanswer, hanswers]
    · refine ⟨reference', ?_⟩
      rw [Machine.run_cons, hrun, hstep]

/-! ## The new series -/

omit [TSDuck] in
theorem latestPcr_concat (pid : PID) (first : Int) (calls : List ClockCall) (call : ClockCall) :
    latestPcr pid first (calls ++ [call]) = (call.sample? pid).elim (latestPcr pid first calls) Sample.pcr90k := by
  unfold latestPcr
  rw [List.filterMap_append, List.getLast?_append]
  cases hsample : call.sample? pid <;> simp [hsample]

omit [TSDuck] in
theorem Carries.latestPcr_eq {pcrs : List Int} (h : Carries pid calls pcrs) (first : Int) :
    latestPcr pid first calls = pcrs.getLast?.getD first := by
  unfold latestPcr
  rw [h.samples, List.getLast?_map]
  cases pcrs.getLast? <;> rfl

variable {reference : ReferencePoint}

section
variable {earlier later : List ClockCall} {tot : TOT}

theorem PairedAt.usable (h : PairedAt pid first calls earlier tot later reference) : tot.Usable := by
  refine ⟨h.isValid, ?_⟩
  rw [h.time]
  rfl

theorem PairedAt.mem (h : PairedAt pid first calls earlier tot later reference) :
    .updateReferencePointFromTot tot ∈ calls := by
  rw [h.split]
  exact List.mem_append_right _ List.mem_cons_self

end

/-- A call that is no usable TOT pairs nothing. -/
theorem pairedAt_concat (hcall : ∀ tot, call = .updateReferencePointFromTot tot → ¬ tot.Usable) :
    (∃ earlier tot later, PairedAt pid first (calls ++ [call]) earlier tot later reference) ↔
      ∃ earlier tot later, PairedAt pid first calls earlier tot later reference := by
  constructor
  · rintro ⟨earlier, tot, later, h⟩
    rcases later.eq_nil_or_concat with rfl | ⟨later, call', rfl⟩
    · obtain ⟨rfl, heq⟩ := List.append_inj' h.split rfl
      exact absurd h.usable (hcall tot (List.cons.inj heq).1)
    · have hsplit : calls ++ [call] = (earlier ++ .updateReferencePointFromTot tot :: later) ++ [call'] := by
        rw [h.split]
        simp
      obtain ⟨hcalls, -⟩ := List.append_inj' hsplit rfl
      refine ⟨earlier, tot, later, hcalls, h.isValid, h.time, h.pcr, ?_⟩
      intro other hother
      exact h.last other (by simp [hother])
  · rintro ⟨earlier, tot, later, h⟩
    refine ⟨earlier, tot, later ++ [call], by rw [h.split]; simp, h.isValid, h.time, h.pcr, ?_⟩
    intro other hother
    rcases List.mem_append.mp hother with hbefore | hnow
    · exact h.last other hbefore
    · exact hcall other (List.mem_singleton.mp hnow).symm

/-- A usable TOT is paired with the PCR latest when it arrives. -/
theorem pairedAt_tot {tot : TOT} {unixMs : Int} (hvalid : tot.isValid = true)
    (htime : jstTimeToUnixMs tot.utcTime = some unixMs) :
    (∃ earlier tot' later,
      PairedAt pid first (calls ++ [.updateReferencePointFromTot tot]) earlier tot' later reference) ↔
      reference = ⟨latestPcr pid first calls, unixMs⟩ := by
  constructor
  · rintro ⟨earlier, tot', later, h⟩
    rcases later.eq_nil_or_concat with rfl | ⟨later, call', rfl⟩
    · obtain ⟨rfl, heq⟩ := List.append_inj' h.split rfl
      obtain rfl : tot = tot' := ClockCall.updateReferencePointFromTot.inj (List.cons.inj heq).1
      have hunixMs : unixMs = reference.unixMs := Option.some.inj (htime.symm.trans h.time)
      rw [hunixMs, ← h.pcr]
    · have hsplit : calls ++ [.updateReferencePointFromTot tot] =
          (earlier ++ .updateReferencePointFromTot tot' :: later) ++ [call'] := by
        rw [h.split]
        simp
      obtain ⟨-, heq⟩ := List.append_inj' hsplit rfl
      refine absurd ?_ (h.last tot (by simp [(List.cons.inj heq).1]))
      exact ⟨hvalid, by rw [htime]; rfl⟩
  · rintro rfl
    refine ⟨calls, tot, [], rfl, hvalid, htime, rfl, ?_⟩
    intro other hother
    cases hother

/-- A PCR that continues the series is accepted. -/
theorem outOfSeries_of_continues (hdiff : DiffPTSSpec) {s : Sample} {last : Int} (hlast : Has33Bits last)
    (hs : Has33Bits s.pcr90k) (hcontinues : ContinuesSeries last s.pcr90k) : s.outOfSeries (some last) = false := by
  have hdelta : wrapAwareDelta90k last s.pcr90k = Wrap.forward PTS_DTS_SCALE last s.pcr90k := by
    rw [wrapAwareDelta90k_eq_nearest hdiff hlast hs]
    unfold Has33Bits ContinuesSeries kMaxSanePcrDelta90k Wrap.nearest Wrap.forward PTS_DTS_SCALE at *
    split <;> omega
  have hnonneg : 0 ≤ Wrap.forward PTS_DTS_SCALE last s.pcr90k := Int.emod_nonneg _ (by decide)
  have hsane : isSanePcrDelta (wrapAwareDelta90k last s.pcr90k) = true := by
    rw [hdelta]
    unfold isSanePcrDelta
    rw [Bool.and_eq_true]
    exact ⟨decide_eq_true hnonneg, decide_eq_true_eq.mpr hcontinues⟩
  simp [Sample.outOfSeries, hsane]

/-- The clock after `calls`, at whose start it adopted the series of `first`. -/
structure InNewSeries (pid : PID) (first : Int) (calls : List ClockCall) (c : ProgramClock) : Prop where
  pcrPid : c.pcrPid = some pid
  lastPcr90k : c.lastPcr90k = some (latestPcr pid first calls)
  inRange : Has33Bits (latestPcr pid first calls)
  noSuspect : c.suspectPcrCount = 0
  reference : ∀ reference, c.referencePoint = some reference ↔
    ∃ earlier tot later, PairedAt pid first calls earlier tot later reference

theorem InNewSeries.start (pid : PID) {first : Int} (hfirst : Has33Bits first) :
    InNewSeries pid first [] ⟨some pid, some first, none, 0⟩ := by
  refine ⟨rfl, rfl, hfirst, rfl, ?_⟩
  intro reference
  constructor
  · intro h
    cases h
  · rintro ⟨earlier, tot, later, h⟩
    simpa using h.split

/-- A TOT: it is paired with the latest PCR if it is usable. -/
theorem InNewSeries.tot (h : InNewSeries pid first calls c) (tot : TOT) :
    InNewSeries pid first (calls ++ [.updateReferencePointFromTot tot]) (c.updateReferencePointFromTot tot) := by
  have hlatest : latestPcr pid first (calls ++ [.updateReferencePointFromTot tot]) = latestPcr pid first calls :=
    latestPcr_concat pid first calls _
  rw [ProgramClock.updateReferencePointFromTot_eq]
  refine ⟨h.pcrPid, h.lastPcr90k.trans (by rw [hlatest]), by rw [hlatest]; exact h.inRange, h.noSuspect, ?_⟩
  intro reference
  by_cases husable : tot.Usable
  · obtain ⟨hvalid, htime⟩ := husable
    obtain ⟨unixMs, hunixMs⟩ := Option.isSome_iff_exists.mp htime
    rw [pairedAt_tot hvalid hunixMs, eq_comm]
    simp [hvalid, hunixMs, h.noSuspect, h.lastPcr90k]
  · have hgives : (if tot.isValid = true ∧ c.suspectPcrCount = 0 then
        (jstTimeToUnixMs tot.utcTime).bind fun unixMs => c.lastPcr90k.map fun last => ReferencePoint.mk last unixMs
        else none) = none := by
      split
      · next hvalid =>
        have hnone : jstTimeToUnixMs tot.utcTime = none := by
          rw [← Option.not_isSome_iff_eq_none]
          intro htime
          exact husable ⟨hvalid.1, htime⟩
        rw [hnone]
        rfl
      · rfl
    have hother : ∀ other, ClockCall.updateReferencePointFromTot tot = .updateReferencePointFromTot other →
        ¬ other.Usable := by
      rintro other ⟨⟩
      exact husable
    show (Option.or _ c.referencePoint) = some reference ↔ _
    rw [hgives, Option.none_or, pairedAt_concat hother]
    exact h.reference reference

/-- Once a usable TOT has come, one is paired. -/
theorem exists_pairedAt (pid : PID) (first : Int) {tot : TOT} (husable : tot.Usable)
    (hmem : .updateReferencePointFromTot tot ∈ calls) :
    ∃ reference earlier tot' later, PairedAt pid first calls earlier tot' later reference := by
  induction calls using List.reverseRecOn with
  | nil => cases hmem
  | append_singleton calls call ih =>
    by_cases hcall : ∃ tot, call = .updateReferencePointFromTot tot ∧ tot.Usable
    · obtain ⟨tot', rfl, hvalid, htime⟩ := hcall
      obtain ⟨unixMs, hunixMs⟩ := Option.isSome_iff_exists.mp htime
      exact ⟨_, (pairedAt_tot hvalid hunixMs).mpr rfl⟩
    · have hbefore : .updateReferencePointFromTot tot ∈ calls := by
        rcases List.mem_append.mp hmem with hbefore | hnow
        · exact hbefore
        · exact absurd ⟨tot, (List.mem_singleton.mp hnow).symm, husable⟩ hcall
      obtain ⟨reference, hpaired⟩ := ih hbefore
      refine ⟨reference, (pairedAt_concat ?_).mpr hpaired⟩
      intro tot' hcall' husable'
      exact hcall ⟨tot', hcall', husable'⟩

/-- A sample that continues the series. -/
theorem InNewSeries.sample (hdiff : DiffPTSSpec) (h : InNewSeries pid first calls c) {packet : PacketView} {pcr : Int}
    (hsample : sample? (some pid) packet = some ⟨pcr, false⟩)
    (hcontinues : ContinuesSeries (latestPcr pid first calls) pcr) :
    InNewSeries pid first (calls ++ [.recordPcr packet]) (c.recordPcr packet).1 ∧ (c.recordPcr packet).2 = none := by
  have hpcr : Has33Bits pcr := has33Bits_of_sample? hsample
  have hlatest : latestPcr pid first (calls ++ [.recordPcr packet]) = pcr := by
    rw [latestPcr_concat, ClockCall.sample?, hsample]
    rfl
  have hin : (⟨pcr, false⟩ : Sample).outOfSeries c.lastPcr90k = false := by
    rw [h.lastPcr90k]
    exact outOfSeries_of_continues hdiff h.inRange hpcr hcontinues
  rw [ProgramClock.recordPcr_accepted (by rw [h.pcrPid]; exact hsample) hin]
  refine ⟨⟨h.pcrPid, by rw [hlatest], by rw [hlatest]; exact hpcr, rfl, ?_⟩, rfl⟩
  intro reference
  have hnotTot : ∀ tot, ClockCall.recordPcr packet = .updateReferencePointFromTot tot → ¬ tot.Usable := by
    intro tot htot
    cases htot
  rw [pairedAt_concat hnotTot]
  exact h.reference reference

/-- A call without a sample. -/
theorem InNewSeries.quiet (h : InNewSeries pid first calls c) (hquiet : Carries pid [call] []) :
    InNewSeries pid first (calls ++ [call]) (c.step call).1 := by
  by_cases htot : ∃ tot, call = .updateReferencePointFromTot tot
  · obtain ⟨tot, rfl⟩ := htot
    exact h.tot tot
  · have hsame : (c.step call).1 = c := (step_quiet h.pcrPid hquiet).2.resolve_right htot
    have hlatest : latestPcr pid first (calls ++ [call]) = latestPcr pid first calls := by
      rw [latestPcr_concat, List.filterMap_eq_nil_iff.mp hquiet.samples call (List.mem_singleton_self _)]
      rfl
    rw [hsame]
    refine ⟨h.pcrPid, by rw [hlatest]; exact h.lastPcr90k, by rw [hlatest]; exact h.inRange, h.noSuspect, ?_⟩
    intro reference
    rw [pairedAt_concat fun tot hcall => absurd ⟨tot, hcall⟩ htot]
    exact h.reference reference

/-- **One call** after the series was adopted. -/
theorem InNewSeries.step (hdiff : DiffPTSSpec) (h : InNewSeries pid first calls c) {pcrs : List Int}
    (hcall : Carries pid [call] pcrs)
    (hcontinues : ∀ pcr ∈ pcrs.head?, ContinuesSeries (latestPcr pid first calls) pcr) :
    InNewSeries pid first (calls ++ [call]) (c.step call).1 ∧ (c.step call).2.discontinuity? = none := by
  have hsamples := hcall.samples
  cases hsample : call.sample? pid with
  | none =>
    rw [List.filterMap_cons_none hsample, List.filterMap_nil, eq_comm, List.map_eq_nil_iff] at hsamples
    subst hsamples
    exact ⟨h.quiet hcall, (step_quiet h.pcrPid hcall).1⟩
  | some s =>
    cases call with
    | recordPcr packet =>
      rw [List.filterMap_cons_some hsample, List.filterMap_nil, eq_comm, List.map_eq_singleton_iff] at hsamples
      obtain ⟨pcr, rfl, rfl⟩ := hsamples
      exact h.sample hdiff hsample (hcontinues pcr rfl)
    | _ => cases hsample

/-- **The calls** after the series was adopted. -/
theorem inNewSeries_run (hdiff : DiffPTSSpec) (h : InNewSeries pid first [] c) {pcrs : List Int}
    (hcarries : Carries pid calls pcrs) (hcontinues : (first :: pcrs).IsChain ContinuesSeries) :
    InNewSeries pid first calls (Machine.run ProgramClock.step c calls) ∧
      (Machine.answers ProgramClock.step c calls).filterMap ClockAnswer.discontinuity? = [] := by
  induction calls using List.reverseRecOn generalizing pcrs with
  | nil => exact ⟨h, rfl⟩
  | append_singleton calls call ih =>
    obtain ⟨before, now, rfl, hbefore, hnow⟩ := hcarries.of_append
    rw [← List.cons_append, List.isChain_append] at hcontinues
    obtain ⟨hchain, -, hlink⟩ := hcontinues
    obtain ⟨hseries, hanswers⟩ := ih hbefore hchain
    have hlatest : latestPcr pid first calls ∈ (first :: before).getLast? := by
      rw [List.getLast?_cons, hbefore.latestPcr_eq]
      rfl
    obtain ⟨hstep, hanswer⟩ := hseries.step hdiff hnow (hlink _ hlatest)
    constructor
    · rw [Machine.run_concat]
      exact hstep
    · rw [Machine.answers_append, List.filterMap_append, hanswers, List.nil_append, Machine.answers_cons,
        List.filterMap_cons, hanswer]
      rfl

/-! ## The jump -/

theorem outOfSeries_of_jumps {last pcr90k : Int} (hjumps : JumpsFrom last pcr90k) :
    (⟨pcr90k, false⟩ : Sample).outOfSeries (some last) = true := by
  have hinsane : isSanePcrDelta (wrapAwareDelta90k last pcr90k) = false := by
    unfold isSanePcrDelta
    rw [Bool.and_eq_false_iff, decide_eq_false_iff_not, decide_eq_false_iff_not]
    unfold JumpsFrom at hjumps
    omega
  simp [Sample.outOfSeries, hinsane]

theorem ptsToUnixMs_suspected (hcount : 0 < c.suspectPcrCount) (pts90k : ℕ) : c.ptsToUnixMs pts90k = none := by
  unfold ProgramClock.ptsToUnixMs
  split
  · rfl
  · rw [if_pos (.inl hcount)]

omit [TSDuck] in
theorem getPID_of_sample? {packet : PacketView} {s : Sample} (h : sample? (some pid) packet = some s) :
    packet.getPID = pid := by
  unfold sample? at h
  split at h
  · next hcounts => exact (Option.some.inj hcounts.1).symm
  · cases h

/-- From the first sample on a suspect is pending. -/
theorem run_suspected {last s₁ : Int} (hpid : c.pcrPid = some pid) (hlast : c.lastPcr90k = some last)
    (hcount : c.suspectPcrCount = 0) {before between : List ClockCall} {packet₁ : PacketView}
    (hbefore : Carries pid before []) (hfirst : sample? (some pid) packet₁ = some ⟨s₁, false⟩)
    (hbetween : Carries pid between []) (hjump : JumpsFrom last s₁) :
    (Machine.answers ProgramClock.step c (before ++ .recordPcr packet₁ :: between)).filterMap
        ClockAnswer.discontinuity? = [] ∧
      ∃ reference, Machine.run ProgramClock.step c (before ++ .recordPcr packet₁ :: between) =
        ⟨some pid, some last, reference, 1⟩ := by
  obtain ⟨hanswers, r₀, hrun⟩ := run_quiet hpid hbefore
  rw [hpid, hlast, hcount] at hrun
  have hsuspect : (⟨some pid, some last, r₀, 0⟩ : ProgramClock).recordPcr packet₁ =
      (⟨some pid, some last, r₀, 1⟩, none) :=
    ProgramClock.recordPcr_suspect hfirst (outOfSeries_of_jumps hjump) rfl
  obtain ⟨hanswers', r₁, hrun'⟩ := run_quiet (c := ⟨some pid, some last, r₀, 1⟩) rfl hbetween
  constructor
  · rw [Machine.answers_append, List.filterMap_append, hanswers, hrun, Machine.answers_cons, ProgramClock.step,
      hsuspect, List.filterMap_cons_none rfl, hanswers', List.append_nil]
  · refine ⟨r₁, ?_⟩
    rw [Machine.run_append, hrun, Machine.run_cons, ProgramClock.step, hsuspect, hrun']

omit [TSDuck] in
theorem Carries.of_prefix {part : List ClockCall} {pcrs : List Int} (h : Carries pid calls pcrs)
    (hpart : part <+: calls) :
    ∃ before after, pcrs = before ++ after ∧ Carries pid part before := by
  obtain ⟨later, rfl⟩ := hpart
  obtain ⟨before, after, hpcrs, hbefore, -⟩ := h.of_append
  exact ⟨before, after, hpcrs, hbefore⟩

omit [TSDuck] in
theorem Carries.latestPcr_mem {pcrs : List Int} (h : Carries pid calls pcrs) (first : Int) :
    latestPcr pid first calls ∈ first :: pcrs := by
  apply List.mem_of_getLast?
  rw [List.getLast?_cons, h.latestPcr_eq]

/-- What a TOT is paired with is a PCR of the series. -/
theorem PairedAt.pcr_mem {earlier later : List ClockCall} {tot : TOT} {pcrs : List Int}
    (h : PairedAt pid first calls earlier tot later reference) (hcarries : Carries pid calls pcrs) :
    reference.pcr90k ∈ first :: pcrs := by
  obtain ⟨before, after, rfl, hearlier⟩ := hcarries.of_prefix ⟨_, h.split.symm⟩
  rw [h.pcr, ← List.cons_append]
  exact List.mem_append_left _ (hearlier.latestPcr_mem first)

/-- In the new series a value is one converted with a TOT paired in it. -/
theorem InNewSeries.ptsToUnixMs_eq_some (h : InNewSeries pid first calls c) {pts90k : ℕ} {unixMs : Int} :
    c.ptsToUnixMs pts90k = some unixMs ↔ pts90k < PTS_DTS_SCALE ∧
      ∃ reference, (∃ earlier tot later, PairedAt pid first calls earlier tot later reference) ∧
        unixMs = reference.convert pts90k := by
  have hmax : MAX_PTS_DTS < pts90k ↔ ¬ pts90k < PTS_DTS_SCALE := by
    unfold MAX_PTS_DTS PTS_DTS_SCALE
    omega
  unfold ProgramClock.ptsToUnixMs
  simp only [← h.reference, h.noSuspect, hmax, Nat.lt_irrefl, false_or]
  cases c.referencePoint with
  | none => simp
  | some reference =>
    by_cases hpts : pts90k < PTS_DTS_SCALE
    · simp [hpts, ReferencePoint.convert, eq_comm]
    · simp [hpts]

/-- Before a usable TOT the new series converts nothing. -/
theorem InNewSeries.ptsToUnixMs_eq_none (h : InNewSeries pid first calls c)
    (hunusable : ∀ tot, .updateReferencePointFromTot tot ∈ calls → ¬ tot.Usable) (pts90k : ℕ) :
    c.ptsToUnixMs pts90k = none := by
  rw [Option.eq_none_iff_forall_ne_some]
  intro unixMs hunixMs
  obtain ⟨-, reference, ⟨earlier, tot, later, hpaired⟩, -⟩ := h.ptsToUnixMs_eq_some.mp hunixMs
  exact hunusable tot hpaired.mem hpaired.usable

/-- After a usable TOT the new series converts every PTS. -/
theorem InNewSeries.ptsToUnixMs_isSome (h : InNewSeries pid first calls c) {tot : TOT} (husable : tot.Usable)
    (hmem : .updateReferencePointFromTot tot ∈ calls) {pts90k : ℕ} (hpts : pts90k < PTS_DTS_SCALE) :
    (c.ptsToUnixMs pts90k).isSome := by
  obtain ⟨reference, hpaired⟩ := exists_pairedAt pid first husable hmem
  rw [h.ptsToUnixMs_eq_some.mpr ⟨hpts, reference, hpaired, rfl⟩]
  rfl

/-- **A permanent jump.**  Two samples in a row are out of the series of the last accepted PCR, and those after them
continue the second.  Exactly one discontinuity is reported, not flagged, for the second.  No PTS is converted from
the first sample on until a usable TOT has come after the second, and from then on each is converted with the latest
usable TOT and the PCR of the new series latest when it came. -/
theorem permanentJump (hdiff : DiffPTSSpec) {last s₁ s₂ : Int} {rest : List Int}
    (hpid : c.pcrPid = some pid) (hlast : c.lastPcr90k = some last) (hcount : c.suspectPcrCount = 0)
    {before between after : List ClockCall} {packet₁ packet₂ : PacketView}
    (hbefore : Carries pid before []) (hfirst : sample? (some pid) packet₁ = some ⟨s₁, false⟩)
    (hbetween : Carries pid between []) (hsecond : sample? (some pid) packet₂ = some ⟨s₂, false⟩)
    (hafter : Carries pid after rest) (hjump₁ : JumpsFrom last s₁) (hjump₂ : JumpsFrom last s₂)
    (hcontinues : (s₂ :: rest).IsChain ContinuesSeries) :
    let toSecond := before ++ .recordPcr packet₁ :: between
    let answers := Machine.answers ProgramClock.step c (toSecond ++ .recordPcr packet₂ :: after)
    answers.filterMap ClockAnswer.discontinuity? = [⟨pid, false⟩] ∧
    answers[toSecond.length]? = some (.discontinuity (some ⟨pid, false⟩)) ∧
    (∀ part, part <+: between → ∀ pts90k,
      (Machine.run ProgramClock.step c (before ++ .recordPcr packet₁ :: part)).ptsToUnixMs pts90k = none) ∧
    ∀ part, part <+: after →
      let afterPart := Machine.run ProgramClock.step c (toSecond ++ .recordPcr packet₂ :: part)
      ((∀ tot, .updateReferencePointFromTot tot ∈ part → ¬ tot.Usable) → ∀ pts90k, afterPart.ptsToUnixMs pts90k = none) ∧
      (∀ tot, .updateReferencePointFromTot tot ∈ part → tot.Usable → ∀ pts90k < PTS_DTS_SCALE,
        (afterPart.ptsToUnixMs pts90k).isSome) ∧
      ∀ pts90k unixMs, afterPart.ptsToUnixMs pts90k = some unixMs → ∃ earlier tot later reference,
        PairedAt pid s₂ part earlier tot later reference ∧ reference.pcr90k ∈ s₂ :: rest ∧
          unixMs = reference.convert pts90k := by
  intro toSecond answers
  obtain ⟨hanswers, r, hrun⟩ := run_suspected hpid hlast hcount hbefore hfirst hbetween hjump₁
  have hconfirm : (⟨some pid, some last, r, 1⟩ : ProgramClock).recordPcr packet₂ =
      (⟨some pid, some s₂, none, 0⟩, some ⟨pid, false⟩) := by
    rw [ProgramClock.recordPcr_confirm hsecond (outOfSeries_of_jumps hjump₂) Nat.one_pos, getPID_of_sample? hsecond]
    rfl
  have hstart : InNewSeries pid s₂ [] ⟨some pid, some s₂, none, 0⟩ := .start pid (has33Bits_of_sample? hsecond)
  have hsplit : answers = Machine.answers ProgramClock.step c toSecond ++ .discontinuity (some ⟨pid, false⟩) ::
      Machine.answers ProgramClock.step ⟨some pid, some s₂, none, 0⟩ after := by
    show Machine.answers _ _ _ = _
    rw [Machine.answers_append, hrun, Machine.answers_cons, ProgramClock.step, hconfirm]
  refine ⟨?_, ?_, ?_, ?_⟩
  · rw [hsplit, List.filterMap_append, hanswers, List.nil_append]
    show (⟨pid, false⟩ : PcrDiscontinuity) :: _ = _
    rw [(inNewSeries_run hdiff hstart hafter hcontinues).2]
  · rw [hsplit, List.getElem?_append_right (by rw [Machine.length_answers])]
    simp
  · intro part hpart pts90k
    obtain ⟨none₁, none₂, hnone, hcarries⟩ := hbetween.of_prefix hpart
    obtain ⟨rfl, rfl⟩ := List.append_eq_nil_iff.mp hnone.symm
    obtain ⟨-, r', hrun'⟩ := run_suspected hpid hlast hcount hbefore hfirst hcarries hjump₁
    apply ptsToUnixMs_suspected
    rw [hrun']
    exact Nat.one_pos
  · intro part hpart afterPart
    obtain ⟨pcrs, others, rfl, hcarries⟩ := hafter.of_prefix hpart
    rw [← List.cons_append, List.isChain_append] at hcontinues
    have hseries : InNewSeries pid s₂ part afterPart := by
      show InNewSeries pid s₂ part (Machine.run _ _ _)
      rw [Machine.run_append, hrun, Machine.run_cons, ProgramClock.step, hconfirm]
      exact (inNewSeries_run hdiff hstart hcarries hcontinues.1).1
    refine ⟨?_, ?_, ?_⟩
    · exact hseries.ptsToUnixMs_eq_none
    · intro tot hmem husable pts90k hpts
      exact hseries.ptsToUnixMs_isSome husable hmem hpts
    · intro pts90k unixMs hunixMs
      obtain ⟨-, reference, ⟨earlier, tot, later, hpaired⟩, hconvert⟩ := hseries.ptsToUnixMs_eq_some.mp hunixMs
      refine ⟨earlier, tot, later, reference, hpaired, ?_, hconvert⟩
      rw [← List.cons_append]
      exact List.mem_append_left _ (hpaired.pcr_mem hcarries)

end

/-- PCRs 100 s after the last one, each followed by a TOT at the Unix epoch. -/
def jumpedRun : List ClockCall :=
  [.recordPcr ⟨true, 0x100, true, 2700000000, false⟩, .updateReferencePointFromTot ⟨true, 40587 * 86400000 + 32400000⟩,
    .recordPcr ⟨true, 0x100, true, 2702700000, false⟩, .updateReferencePointFromTot ⟨true, 40587 * 86400000 + 32400000⟩]

theorem permanentJump_jumpedRun :
    letI := TSDuck.documented
    (Machine.answers ProgramClock.step ⟨some 0x100, some 0, none, 0⟩ jumpedRun).filterMap ClockAnswer.discontinuity? =
      [⟨0x100, false⟩] ∧
    ((Machine.run ProgramClock.step ⟨some 0x100, some 0, none, 0⟩ jumpedRun).ptsToUnixMs 9009000).isSome := by
  let := TSDuck.documented
  have hquiet : ∀ tot, Carries 0x100 [.updateReferencePointFromTot tot] [] := by
    intro tot
    refine ⟨?_, rfl⟩
    intro other hother
    simp at hother
  have hbefore : Carries 0x100 [] [] := ⟨fun _ h => (by cases h), rfl⟩
  have hfirst : sample? (some 0x100) ⟨true, 0x100, true, 2700000000, false⟩ = some ⟨9000000, false⟩ := by decide
  have hsecond : sample? (some 0x100) ⟨true, 0x100, true, 2702700000, false⟩ = some ⟨9009000, false⟩ := by decide
  have h := permanentJump (c := ⟨some 0x100, some 0, none, 0⟩) diffPTSSpec_documented rfl rfl rfl hbefore hfirst
    (hquiet ⟨true, 40587 * 86400000 + 32400000⟩) hsecond (hquiet ⟨true, 40587 * 86400000 + 32400000⟩) (.inr (by decide))
    (.inr (by decide)) (List.isChain_singleton _)
  refine ⟨h.1, ?_⟩
  exact (h.2.2.2 _ (List.prefix_refl _)).2.1 _ (List.mem_singleton_self _) ⟨rfl, by decide⟩ 9009000 (by decide)

end AribcapDump
