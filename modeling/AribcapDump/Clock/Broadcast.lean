import AribcapDump.Clock.Jump
import AribcapDump.Clock.Unwrapped

/-!
# The clock in a conforming broadcast

The PCRs of a program are samples of a clock that runs with the time, and they
come at least every so often; another time base begins with a flagged PCR or
with another PCR PID.  The TOT tells the time up to an error.

Times are counted in cycles of 27 MHz since the Unix epoch, 300 of them to a PTS
tick and 27000 to a millisecond.

* `onTime_of_conforming`: the clock of a broadcast that conforms from the start, by what was broadcast.
* `recovering_of_conforming`: the clock of one that conforms from some call on, whatever was before.
* `Pairs.convert_near`: a conversion is late by a PCR interval at most, but for the error of the TOT.
-/

namespace AribcapDump

/-! ## Broadcasts -/

/-- A call, when it is made, and how far the program clock is ahead of the time then. -/
structure TimedCall where
  call : ClockCall
  time : Int
  base : Int

/-- The calls made from some point on, latest first. -/
abbrev Broadcast := List TimedCall

/-- What a broadcast keeps to, in cycles. -/
structure Limits where
  pcrInterval : Int
  totError : Int

/-- The sample a call records after `h`. -/
def sampleAfter (h : History) : ClockCall → Option Sample
  | .recordPcr packet => sample? (trackedPid h) packet
  | _ => none

/-- The call begins a time base: it changes the PCR PID or records a flagged sample. -/
def beginsBase (h : History) (call : ClockCall) : Bool :=
  changesPid h call || (sampleAfter h call).any Sample.flagged

/-- The PCR of a time. -/
def pcrAt (base time : Int) : ℕ := ((time + base) % (300 * PTS_DTS_SCALE)).toNat

/-- The PTS of a time. -/
def ptsAt (base time : Int) : ℕ := ((time + base) / 300 % PTS_DTS_SCALE).toNat

namespace Broadcast

variable (before : History)

/-- All calls, with those before the broadcast. -/
def history (b : Broadcast) : History := b.map TimedCall.call ++ before

/-- The time base in use, 0 before the first. -/
def base : Broadcast → Int
  | [] => 0
  | e :: _ => e.base

/-- When the samples on the tracked PID were recorded, in the time base in use, latest first. -/
def sampleTimes : Broadcast → List Int
  | [] => []
  | e :: b =>
    if changesPid (history before b) e.call then []
    else
      match sampleAfter (history before b) e.call with
      | none => sampleTimes b
      | some s => if s.flagged then [e.time] else e.time :: sampleTimes b

end Broadcast

open Broadcast

section
variable [TSDuck]

/-- The time a usable TOT tells. -/
def ClockCall.totTime : ClockCall → Option Int
  | .updateReferencePointFromTot tot => if tot.isValid then jstTimeToUnixMs tot.utcTime else none
  | _ => none

/-- When the last usable TOT came, in the time base in use and after `samples` samples of it. -/
def Broadcast.anchoredAt (before : History) (samples : ℕ) : Broadcast → Option Int
  | [] => none
  | e :: b =>
    if beginsBase (history before b) e.call then none
    else if e.call.totTime.isSome ∧ samples ≤ (sampleTimes before b).length then some e.time
    else anchoredAt before samples b

/-- The call keeps to the limits, after what was broadcast before. -/
structure TimedCall.Conforms (limits : Limits) (before : History) (e : TimedCall) (b : Broadcast) : Prop where
  sameBase : beginsBase (history before b) e.call = false → ∀ earlier ∈ b.head?, e.base = earlier.base
  pcr : ∀ packet, e.call = .recordPcr packet → (sampleAfter (history before b) e.call).isSome →
    packet.getPCR = pcrAt e.base e.time
  /-- A sample in the same time base, or a TOT, is at most an interval after the sample before it. -/
  punctual : (sampleAfter (history before b) e.call).isSome ∨ e.call.totTime.isSome →
    beginsBase (history before b) e.call = false → ∀ since ∈ (sampleTimes before b).head?,
    since ≤ e.time ∧ e.time ≤ since + limits.pcrInterval
  tot : ∀ unixMs ∈ e.call.totTime, e.time - limits.totError ≤ 27000 * unixMs ∧ 27000 * unixMs ≤ e.time + limits.totError

def Broadcast.Conforming (limits : Limits) (before : History) : Broadcast → Prop
  | [] => True
  | e :: b => e.Conforms limits before b ∧ Conforming limits before b

/-- The reference point pairs the time of a TOT that came at `anchor` with the PTS of the last sample before. -/
def Pairs (limits : Limits) (base anchor : Int) (r : ReferencePoint) : Prop :=
  ∃ since, r.pcr90k = ptsAt base since ∧ since ≤ anchor ∧ anchor ≤ since + limits.pcrInterval ∧
    anchor - limits.totError ≤ 27000 * r.unixMs ∧ 27000 * r.unixMs ≤ anchor + limits.totError

/-- The clock has accepted the samples of the broadcast. -/
structure InStep (before : History) (b : Broadcast) : Prop where
  calm : suspectPending (history before b) = false
  lastAccepted : accepted (history before b) = (sampleTimes before b).head?.map fun since => (ptsAt b.base since : Int)

/-- The clock of a broadcast that conforms from the start. -/
structure OnTime (limits : Limits) (b : Broadcast) : Prop where
  inStep : InStep [] b
  reference : Option.Rel (Pairs limits b.base) (anchoredAt [] 1 b) (keptReference (history [] b))

/-- The clock of a broadcast that conforms from some call on. -/
structure Recovering (limits : Limits) (before : History) (b : Broadcast) : Prop where
  samples : InStep before b ∨ sampleTimes before b = [] ∨
    (sampleTimes before b).length = 1 ∧ suspectPending (history before b) = true
  reference : ∀ anchor ∈ anchoredAt before 2 b, ∃ r ∈ keptReference (history before b), Pairs limits b.base anchor r

end

/-! ## The program clock -/

theorem ptsAt_cast (base time : Int) : (ptsAt base time : Int) = (time + base) / 300 % PTS_DTS_SCALE :=
  Int.toNat_of_nonneg (Int.emod_nonneg _ (by decide))

theorem has33Bits_ptsAt (base time : Int) : Has33Bits (ptsAt base time) := by
  rw [ptsAt_cast]
  exact ⟨Int.emod_nonneg _ (by decide), Int.emod_lt_of_pos _ (by decide)⟩

/-- A PCR divided by 300 is the PTS of the same time. -/
theorem tdiv_pcrAt (base time : Int) : Int.tdiv (pcrAt base time) kPcrTicksPerPtsTick = ptsAt base time := by
  have hcast : (pcrAt base time : Int) = Wrap.shift (300 * PTS_DTS_SCALE) (300 * 0) (time + base) := by
    rw [pcrAt, Int.toNat_of_nonneg (Int.emod_nonneg _ (by decide))]
    simp [Wrap.shift]
  rw [Int.tdiv_eq_ediv_of_nonneg (Int.natCast_nonneg _), hcast, ptsAt_cast]
  refine (Wrap.ediv_shift (by decide) 0 (time + base)).trans ?_
  simp [Wrap.shift]

/-- A second in the same time base continues the series. -/
theorem continuesSeries_ptsAt (base : Int) {since time : Int} (hlater : since ≤ time) (hsoon : time ≤ since + 27000000) :
    ContinuesSeries (ptsAt base since) (ptsAt base time) := by
  unfold ContinuesSeries
  rw [ptsAt_cast, ptsAt_cast, Wrap.forward_emod, Int.emod_eq_of_lt]
  · unfold kMaxSanePcrDelta90k
    omega
  · omega
  · unfold PTS_DTS_SCALE
    omega

/-! ## One call -/

section
variable {before : History} {b : Broadcast} {e : TimedCall}

/-- What a call adds to the samples. -/
theorem samples_cons_eq (h : History) (call : ClockCall) :
    samples (call :: h) = if changesPid h call then [] else (sampleAfter h call).toList ++ samples h := by
  cases call with
  | recordPcr packet => rfl
  | _ => rfl

theorem history_cons (before : History) (e : TimedCall) (b : Broadcast) :
    history before (e :: b) = e.call :: history before b := rfl

theorem base_cons (e : TimedCall) (b : Broadcast) : base (e :: b) = e.base := rfl

/-- A call that records a sample keeps the PID. -/
theorem changesPid_of_sample {h : History} {call : ClockCall} {s : Sample} (hs : sampleAfter h call = some s) :
    changesPid h call = false := by
  cases call with
  | recordPcr packet => rfl
  | _ => cases hs

theorem beginsBase_of_sample {h : History} {call : ClockCall} {s : Sample} (hs : sampleAfter h call = some s) :
    beginsBase h call = s.flagged := by
  rw [beginsBase, changesPid_of_sample hs, hs]
  rfl

theorem sampleTimes_of_sample {s : Sample} (hs : sampleAfter (history before b) e.call = some s) :
    sampleTimes before (e :: b) = if s.flagged then [e.time] else e.time :: sampleTimes before b := by
  rw [sampleTimes, changesPid_of_sample hs, hs]
  rfl

theorem sampleTimes_of_change (hchange : changesPid (history before b) e.call = true) :
    sampleTimes before (e :: b) = [] := by
  rw [sampleTimes, if_pos hchange]

/-- A call without a sample that keeps the PID. -/
theorem quiet_of_none (hkeeps : changesPid (history before b) e.call = false)
    (hs : sampleAfter (history before b) e.call = none) :
    beginsBase (history before b) e.call = false ∧ sampleTimes before (e :: b) = sampleTimes before b ∧
      samples (history before (e :: b)) = samples (history before b) := by
  refine ⟨?_, ?_, ?_⟩
  · rw [beginsBase, hkeeps, hs]
    rfl
  · rw [sampleTimes, hkeeps, hs]
    rfl
  · rw [history_cons, samples_cons_eq, hkeeps, hs]
    rfl

end

section
variable [TSDuck] {limits : Limits} {before : History} {b : Broadcast} {e : TimedCall}

theorem TimedCall.Conforms.base_eq (h : e.Conforms limits before b)
    (hkeeps : beginsBase (history before b) e.call = false) (hne : b ≠ []) : e.base = b.base := by
  cases b with
  | nil => exact absurd rfl hne
  | cons earlier b => exact h.sameBase hkeeps earlier rfl

omit [TSDuck] in
theorem ne_nil_of_sampled {since : Int} (hsince : (sampleTimes before b).head? = some since) : b ≠ [] := by
  rintro rfl
  cases hsince

/-- The sample of a conforming call is the PTS of its time. -/
theorem TimedCall.Conforms.pcr90k_eq (h : e.Conforms limits before b) {s : Sample}
    (hs : sampleAfter (history before b) e.call = some s) : s.pcr90k = ptsAt e.base e.time := by
  cases hcall : e.call with
  | recordPcr packet =>
    have hpcr : packet.getPCR = pcrAt e.base e.time := h.pcr packet hcall (by rw [hs]; rfl)
    rw [hcall, sampleAfter, sample?] at hs
    split at hs
    · cases hs
      show Int.tdiv packet.getPCR kPcrTicksPerPtsTick = ptsAt e.base e.time
      rw [hpcr, tdiv_pcrAt]
    · cases hs
  | _ => rw [hcall] at hs; cases hs

/-- A sample that is not held puts the clock in step. -/
theorem inStep_of_sample (h : e.Conforms limits before b) {s : Sample}
    (hs : sampleAfter (history before b) e.call = some s)
    (hheld : s.outOfSeries (accepted (history before b)) = false ∨ suspectPending (history before b) = true) :
    InStep before (e :: b) := by
  have hseries : series (samples (history before (e :: b))) = (some s.pcr90k, false) := by
    rw [history_cons, samples_cons_eq, changesPid_of_sample hs, hs]
    unfold accepted suspectPending at hheld
    rcases hheld with hin | hpending
    · simp [series, hin]
    · simp [series, hpending]
  refine ⟨congrArg Prod.snd hseries, (congrArg Prod.fst hseries).trans ?_⟩
  rw [sampleTimes_of_sample hs, h.pcr90k_eq hs]
  cases s.flagged <;> rfl

/-- A new PCR PID puts the clock in step. -/
theorem inStep_of_change (hchange : changesPid (history before b) e.call = true) : InStep before (e :: b) := by
  have hsamples : samples (history before (e :: b)) = [] := by
    rw [history_cons, samples_cons_eq, hchange]
    rfl
  refine ⟨?_, ?_⟩
  · rw [suspectPending, hsamples]
    rfl
  · rw [accepted, hsamples, sampleTimes_of_change hchange]
    rfl

variable (hdiff : DiffPTSSpec) (hinterval : limits.pcrInterval ≤ 27000000)
include hdiff hinterval

/-- The sample of a conforming call is in the series. -/
theorem InStep.inSeries (hstep : InStep before b) (h : e.Conforms limits before b) {s : Sample}
    (hs : sampleAfter (history before b) e.call = some s) : s.outOfSeries (accepted (history before b)) = false := by
  cases hflag : s.flagged with
  | true => rw [Sample.outOfSeries, hflag, Bool.not_true, Bool.false_and]
  | false =>
    have hkeeps : beginsBase (history before b) e.call = false := by rw [beginsBase_of_sample hs, hflag]
    rw [hstep.lastAccepted]
    cases hsince : (sampleTimes before b).head? with
    | none => rw [Option.map_none, Sample.outOfSeries, Option.any_none, Bool.and_false]
    | some since =>
      obtain ⟨hlater, hsoon⟩ := h.punctual (.inl (by rw [hs]; rfl)) hkeeps since hsince
      have hpcr : s.pcr90k = ptsAt b.base e.time := by
        rw [h.pcr90k_eq hs, h.base_eq hkeeps (ne_nil_of_sampled hsince)]
      refine outOfSeries_of_continues hdiff (has33Bits_ptsAt _ _) (hpcr ▸ has33Bits_ptsAt _ _) ?_
      rw [hpcr]
      exact continuesSeries_ptsAt b.base hlater (by omega)

/-- **A conforming call** is answered with a discontinuity only if it records a flagged sample. -/
theorem InStep.recordPcr_eq (hstep : InStep before b) (h : e.Conforms limits before b) {packet : PacketView}
    (hcall : e.call = .recordPcr packet) :
    ((clock (history before b)).recordPcr packet).2 =
      if (sampleAfter (history before b) e.call).any Sample.flagged then some ⟨packet.getPID, true⟩ else none := by
  have hpid : (clock (history before b)).pcrPid = trackedPid (history before b) := by rw [clock_eq]
  have hlast : (clock (history before b)).lastPcr90k = accepted (history before b) := by rw [clock_eq]
  cases hs : sampleAfter (history before b) e.call with
  | none =>
    rw [hcall, sampleAfter, ← hpid] at hs
    rw [ProgramClock.recordPcr_of_none hs]
    rfl
  | some s =>
    have hin := hstep.inSeries hdiff hinterval h hs
    rw [hcall, sampleAfter, ← hpid] at hs
    rw [← hlast] at hin
    rw [ProgramClock.recordPcr_accepted hs hin]
    rfl

/-- What ends the reference point is the begin of a time base. -/
theorem InStep.disturbs_eq (hstep : InStep before b) (h : e.Conforms limits before b) :
    disturbs (history before b) e.call = beginsBase (history before b) e.call := by
  cases hcall : e.call with
  | recordPcr packet =>
    have hsame : changesPid (history before b) (.recordPcr packet) = false := rfl
    rw [disturbs, hstep.recordPcr_eq hdiff hinterval h hcall, hcall, beginsBase, hsame, Bool.false_or]
    cases (sampleAfter (history before b) (.recordPcr packet)).any Sample.flagged <;> rfl
  | _ => simp [disturbs, beginsBase, sampleAfter]

/-- **A conforming call** keeps the clock in step. -/
theorem InStep.cons (hstep : InStep before b) (h : e.Conforms limits before b) : InStep before (e :: b) := by
  cases hs : sampleAfter (history before b) e.call with
  | some s => exact inStep_of_sample h hs (.inl (hstep.inSeries hdiff hinterval h hs))
  | none =>
    cases hchange : changesPid (history before b) e.call with
    | true => exact inStep_of_change hchange
    | false =>
      obtain ⟨hkeeps, htimes, hsamples⟩ := quiet_of_none hchange hs
      refine ⟨?_, ?_⟩
      · rw [suspectPending, hsamples]
        exact hstep.calm
      · rw [accepted, hsamples, htimes]
        refine hstep.lastAccepted.trans ?_
        cases hsince : (sampleTimes before b).head? with
        | none => rfl
        | some since => rw [base_cons, h.base_eq hkeeps (ne_nil_of_sampled hsince)]

omit hdiff hinterval in
/-- A TOT is paired with the last sample. -/
theorem InStep.given_eq (hstep : InStep before b) (call : ClockCall) :
    given (history before b) call =
      call.totTime.bind fun unixMs =>
        (sampleTimes before b).head?.map fun since => ⟨ptsAt b.base since, unixMs⟩ := by
  cases call with
  | updateReferencePointFromTot tot =>
    rw [given, totReference, hstep.calm, hstep.lastAccepted, ClockCall.totTime]
    cases tot.isValid with
    | false => rfl
    | true => simp [Function.comp_def]
  | _ => rfl

omit hdiff hinterval in
/-- A TOT that finds a sample gives a reference point that pairs it with this. -/
theorem InStep.given_of_tot (hstep : InStep before b) (h : e.Conforms limits before b)
    (hkeeps : beginsBase (history before b) e.call = false) (htot : e.call.totTime.isSome = true)
    (hsample : 1 ≤ (sampleTimes before b).length) :
    ∃ r, given (history before b) e.call = some r ∧ Pairs limits e.base e.time r := by
  obtain ⟨unixMs, hunixMs⟩ := Option.isSome_iff_exists.mp htot
  obtain ⟨since, hsince⟩ := Option.isSome_iff_exists.mp (List.isSome_head?.mpr (List.ne_nil_of_length_pos hsample))
  obtain ⟨hlater, hsoon⟩ := h.punctual (.inr htot) hkeeps since hsince
  obtain ⟨hlow, hhigh⟩ := h.tot unixMs hunixMs
  refine ⟨⟨ptsAt e.base since, unixMs⟩, ?_, since, rfl, hlater, hsoon, hlow, hhigh⟩
  rw [hstep.given_eq, hunixMs, hsince, h.base_eq hkeeps (ne_nil_of_sampled hsince)]
  rfl

/-! ## From the start -/

/-- **A conforming call** keeps the clock on time. -/
theorem OnTime.cons (hontime : OnTime limits b) (h : e.Conforms limits [] b) : OnTime limits (e :: b) := by
  have hstep := hontime.inStep
  refine ⟨hstep.cons hdiff hinterval h, ?_⟩
  rw [history_cons, anchoredAt, keptReference, hstep.disturbs_eq hdiff hinterval h]
  cases hbegins : beginsBase (history [] b) e.call with
  | true => exact .none
  | false =>
    simp only [Bool.false_eq_true, if_false]
    by_cases htot : e.call.totTime.isSome ∧ 1 ≤ (sampleTimes [] b).length
    · obtain ⟨r, hgiven, hpairs⟩ := hstep.given_of_tot h hbegins htot.1 htot.2
      rw [if_pos htot, hgiven, Option.some_or]
      exact .some hpairs
    · have hgiven : given (history [] b) e.call = none := by
        rw [hstep.given_eq]
        cases htime : e.call.totTime with
        | none => rfl
        | some unixMs =>
          have hnil : sampleTimes [] b = [] := by
            rw [htime] at htot
            simpa using htot
          rw [hnil]
          rfl
      rw [if_neg htot, hgiven, Option.none_or]
      cases b with
      | nil => exact .none
      | cons earlier b =>
        rw [base_cons, h.base_eq hbegins (List.cons_ne_nil _ _)]
        exact hontime.reference

/-- **The clock of a broadcast that conforms from the start** is on time. -/
theorem onTime_of_conforming (h : Conforming limits [] b) : OnTime limits b := by
  induction b with
  | nil => exact ⟨⟨rfl, rfl⟩, .none⟩
  | cons e b ih => exact (ih h.2).cons hdiff hinterval h.1

omit hdiff hinterval in
/-- The conversions of such a broadcast. -/
theorem OnTime.ptsToUnixMs_eq (hontime : OnTime limits b) (time : Int) :
    Option.Rel (fun anchor unixMs => ∃ r, Pairs limits b.base anchor r ∧ unixMs = r.convert (ptsAt b.base time))
      (anchoredAt [] 1 b) ((clock (history [] b)).ptsToUnixMs (ptsAt b.base time)) := by
  have hpts : ptsAt b.base time < PTS_DTS_SCALE := Int.ofNat_lt.mp (has33Bits_ptsAt b.base time).2
  rw [ptsToUnixMs_clock, if_pos ⟨hpts, hontime.inStep.calm⟩]
  have hreference := hontime.reference
  generalize anchoredAt [] 1 b = anchor at hreference ⊢
  generalize keptReference (history [] b) = reference at hreference ⊢
  cases hreference with
  | none => exact .none
  | some hpairs => exact .some ⟨_, hpairs, rfl⟩

/-! ## From some call on -/

omit hdiff hinterval in
theorem length_of_anchoredAt {samples : ℕ} {anchor : Int} (h : anchoredAt before samples b = some anchor) :
    samples ≤ (sampleTimes before b).length := by
  induction b with
  | nil => cases h
  | cons e b ih =>
    rw [anchoredAt] at h
    cases hbegins : beginsBase (history before b) e.call with
    | true => simp [hbegins] at h
    | false =>
      have hgrows : (sampleTimes before b).length ≤ (sampleTimes before (e :: b)).length := by
        rw [beginsBase, Bool.or_eq_false_iff] at hbegins
        cases hs : sampleAfter (history before b) e.call with
        | none => rw [(quiet_of_none hbegins.1 hs).2.1]
        | some s =>
          have hflag : s.flagged = false := by simpa [hs] using hbegins.2
          rw [sampleTimes_of_sample hs, hflag]
          exact Nat.le_succ _
      rw [hbegins, if_neg Bool.false_ne_true] at h
      split at h
      · next htot => exact htot.2.trans hgrows
      · exact (ih h).trans hgrows

/-- **A conforming call** keeps the clock recovering. -/
theorem Recovering.cons (hrec : Recovering limits before b) (h : e.Conforms limits before b) :
    Recovering limits before (e :: b) := by
  by_cases hstep : InStep before b
  · refine ⟨.inl (hstep.cons hdiff hinterval h), ?_⟩
    intro anchor hanchor
    rw [history_cons, keptReference, hstep.disturbs_eq hdiff hinterval h]
    rw [anchoredAt] at hanchor
    cases hbegins : beginsBase (history before b) e.call with
    | true => simp [hbegins] at hanchor
    | false =>
      simp only [hbegins, Bool.false_eq_true, if_false] at hanchor ⊢
      split at hanchor
      · next htot =>
        cases hanchor
        obtain ⟨r, hgiven, hpairs⟩ := hstep.given_of_tot h hbegins htot.1 (by omega)
        exact ⟨r, by rw [hgiven]; rfl, hpairs⟩
      · next htot =>
        have hgiven : given (history before b) e.call = none := by
          rw [hstep.given_eq]
          cases htime : e.call.totTime with
          | none => rfl
          | some unixMs => exact absurd ⟨by rw [htime]; rfl, length_of_anchoredAt hanchor⟩ htot
        have hne : b ≠ [] := by
          rintro rfl
          cases hanchor
        rw [hgiven, Option.none_or, base_cons, h.base_eq hbegins hne]
        exact hrec.reference anchor hanchor
  · -- at most one sample, so no anchor
    have hfew : sampleTimes before b = [] ∨
        (sampleTimes before b).length = 1 ∧ suspectPending (history before b) = true := hrec.samples.resolve_left hstep
    have hshort : ¬ 2 ≤ (sampleTimes before b).length := by
      rcases hfew with hnil | ⟨hone, -⟩
      · rw [hnil]
        decide
      · omega
    refine ⟨?_, fun anchor hanchor => ?_⟩
    · cases hs : sampleAfter (history before b) e.call with
      | none =>
        cases hchange : changesPid (history before b) e.call with
        | true => exact .inl (inStep_of_change hchange)
        | false =>
          obtain ⟨-, htimes, hsamples⟩ := quiet_of_none hchange hs
          rw [htimes, suspectPending, hsamples]
          exact .inr hfew
      | some s =>
        by_cases hheld : s.outOfSeries (accepted (history before b)) = false ∨ suspectPending (history before b) = true
        · exact .inl (inStep_of_sample h hs hheld)
        · rw [not_or, Bool.not_eq_false, Bool.not_eq_true] at hheld
          obtain ⟨hout, hcalm⟩ := hheld
          have hnil : sampleTimes before b = [] := by
            refine hfew.resolve_right ?_
            rintro ⟨-, hpending⟩
            rw [hcalm] at hpending
            cases hpending
          have hflag : s.flagged = false := by
            rw [Sample.outOfSeries, Bool.and_eq_true] at hout
            simpa using hout.1
          refine .inr (.inr ⟨?_, ?_⟩)
          · rw [sampleTimes_of_sample hs, hflag, hnil]
            rfl
          · rw [suspectPending, history_cons, samples_cons_eq, changesPid_of_sample hs, hs]
            unfold accepted suspectPending at *
            simp [series, hout, hcalm]
    · rw [anchoredAt] at hanchor
      split at hanchor
      · cases hanchor
      · split at hanchor
        · next htot => exact absurd htot.2 hshort
        · exact absurd (length_of_anchoredAt hanchor) hshort

/-- **The clock of a broadcast that conforms from some call on** is recovering, whatever the calls before were. -/
theorem recovering_of_conforming (h : Conforming limits before b) : Recovering limits before b := by
  induction b with
  | nil => exact ⟨.inr (.inl rfl), fun anchor hanchor => (by cases hanchor)⟩
  | cons e b ih => exact (ih h.2).cons hdiff hinterval h.1

omit hdiff hinterval in
/-- With two samples it has recovered. -/
theorem Recovering.inStep (hrec : Recovering limits before b) (hsamples : 2 ≤ (sampleTimes before b).length) :
    InStep before b := by
  rcases hrec.samples with hstep | hnil | ⟨hone, -⟩
  · exact hstep
  · rw [hnil] at hsamples
    simp at hsamples
  · omega

omit hdiff hinterval in
/-- The conversions of such a broadcast. -/
theorem Recovering.ptsToUnixMs_eq (hrec : Recovering limits before b) {anchor : Int}
    (hanchor : anchoredAt before 2 b = some anchor) (time : Int) :
    ∃ r, Pairs limits b.base anchor r ∧
      (clock (history before b)).ptsToUnixMs (ptsAt b.base time) = some (r.convert (ptsAt b.base time)) := by
  obtain ⟨r, hkept, hpairs⟩ := hrec.reference anchor hanchor
  have hcalm := (hrec.inStep (length_of_anchoredAt hanchor)).calm
  have hpts : ptsAt b.base time < PTS_DTS_SCALE := Int.ofNat_lt.mp (has33Bits_ptsAt b.base time).2
  refine ⟨r, hpairs, ?_⟩
  rw [ptsToUnixMs_clock, if_pos ⟨hpts, hcalm⟩, hkept]
  rfl

/-! ## Accuracy -/

omit hinterval in
/-- **A conversion** of a PTS in the same turn of the counter is late by a PCR interval at most, but for the error of the
TOT and a millisecond. -/
theorem Pairs.convert_near {base anchor : Int} {r : ReferencePoint}
    (h : Pairs limits base anchor r) {time : Int} (hahead : time - anchor + limits.pcrInterval ≤ 300 * 0xFFFFFFFF)
    (hbehind : anchor - time ≤ 300 * 0xFFFFFFFF) :
    time - limits.totError - 27000 < 27000 * r.convert (ptsAt base time) ∧
      27000 * r.convert (ptsAt base time) < time + limits.totError + limits.pcrInterval + 27000 := by
  obtain ⟨since, hpcr, hlater, hsoon, hlow, hhigh⟩ := h
  have hbits : Has33Bits r.pcr90k := hpcr ▸ has33Bits_ptsAt base since
  have hwindow : InWindow ((time + base) / 300 - (since + base) / 300) := ⟨by omega, by omega⟩
  have hpts : r.ptsAt ((time + base) / 300 - (since + base) / 300) = ptsAt base time := by
    rw [← Int.ofNat_inj, r.ptsAt_cast, hpcr, ptsAt_cast, ptsAt_cast, Wrap.shift_emod]
  rw [← hpts, r.convert_ptsAt hdiff hbits hwindow, tdiv90_eq]
  constructor <;> split <;> omega

end

end AribcapDump
