import AribcapDump.Clock.ProgramClock
import AribcapDump.Lib.Wrap

/-!
# The time base of a run can be moved

Moving every PCR by `300 * k` ticks of 27 MHz and every PTS by `k` ticks of
90 kHz, around their wraps, changes no answer of the clock: the state of the
moved run is the moved state of the original run.

    answers (calls moved by k) = answers calls        (answers_shift)
-/

namespace AribcapDump

/-- A PCR moved by `300 * k` around its wrap. -/
def shiftPcr (k : Int) (pcr : ℕ) : ℕ := (Wrap.shift (300 * PTS_DTS_SCALE) (300 * k) pcr).toNat

/-- A PTS moved by `k` around its wrap. -/
def shiftPts (k : Int) (pts90k : ℕ) : ℕ := (Wrap.shift PTS_DTS_SCALE k pts90k).toNat

def PacketView.shift (k : Int) (packet : PacketView) : PacketView :=
  if packet.hasPCR then { packet with getPCR := shiftPcr k packet.getPCR } else packet

def ClockCall.shift (k : Int) : ClockCall → ClockCall
  | .recordPcr packet => .recordPcr (packet.shift k)
  | .ptsToUnixMs pts90k => .ptsToUnixMs (shiftPts k pts90k)
  | call => call

/-- The PCR or PTS of the call is in range. -/
def ClockCall.InRange : ClockCall → Prop
  | .recordPcr packet => packet.hasPCR = true → packet.getPCR < 300 * PTS_DTS_SCALE
  | .ptsToUnixMs pts90k => pts90k < PTS_DTS_SCALE
  | _ => True

/-- A PCR kept by the clock has 33 bits. -/
def Has33Bits (x : Int) : Prop := 0 ≤ x ∧ x < PTS_DTS_SCALE

namespace ProgramClock

structure InRange (c : ProgramClock) : Prop where
  last : ∀ x ∈ c.lastPcr90k, Has33Bits x
  reference : ∀ r ∈ c.referencePoint, Has33Bits r.pcr90k

/-- The clock whose PCRs are moved by `k`. -/
def shift (k : Int) (c : ProgramClock) : ProgramClock :=
  { c with
    lastPcr90k := c.lastPcr90k.map (Wrap.shift PTS_DTS_SCALE k)
    referencePoint := c.referencePoint.map fun r => ⟨Wrap.shift PTS_DTS_SCALE k r.pcr90k, r.unixMs⟩ }

end ProgramClock

def Sample.shift (k : Int) (s : Sample) : Sample := ⟨Wrap.shift PTS_DTS_SCALE k s.pcr90k, s.flagged⟩

/-! ## Arithmetic -/

theorem has33Bits_shift (k x : Int) : Has33Bits (Wrap.shift PTS_DTS_SCALE k x) :=
  ⟨Wrap.shift_nonneg (by decide) k x, Wrap.shift_lt (by decide) k x⟩

theorem shiftPts_lt (k : Int) (pts90k : ℕ) : shiftPts k pts90k < PTS_DTS_SCALE := by
  have h := has33Bits_shift k pts90k
  unfold shiftPts
  exact (Int.toNat_lt h.1).mpr h.2

@[simp] theorem shiftPts_cast (k : Int) (pts90k : ℕ) :
    (shiftPts k pts90k : Int) = Wrap.shift PTS_DTS_SCALE k pts90k :=
  Int.toNat_of_nonneg (has33Bits_shift k pts90k).1

theorem shiftPcr_le (k : Int) (pcr : ℕ) : shiftPcr k pcr ≤ MAX_PCR := by
  have hlt : shiftPcr k pcr < 300 * PTS_DTS_SCALE :=
    (Int.toNat_lt (Wrap.shift_nonneg (by decide) _ _)).mpr (Wrap.shift_lt (by decide) _ _)
  exact Nat.le_pred_of_lt hlt

/-- Dividing a moved PCR by 300 moves the 90 kHz value. -/
theorem tdiv_shiftPcr (k : Int) (pcr : ℕ) :
    Int.tdiv (shiftPcr k pcr) kPcrTicksPerPtsTick =
      Wrap.shift PTS_DTS_SCALE k (Int.tdiv pcr kPcrTicksPerPtsTick) := by
  have hcast : (shiftPcr k pcr : Int) = Wrap.shift (300 * PTS_DTS_SCALE) (300 * k) pcr :=
    Int.toNat_of_nonneg (Wrap.shift_nonneg (by decide) _ _)
  rw [Int.tdiv_eq_ediv_of_nonneg (Int.natCast_nonneg _),
    Int.tdiv_eq_ediv_of_nonneg (Int.natCast_nonneg _), hcast]
  exact Wrap.ediv_shift (by decide) k pcr

theorem has33Bits_tdiv {pcr : ℕ} (h : pcr ≤ MAX_PCR) :
    Has33Bits (Int.tdiv pcr kPcrTicksPerPtsTick) := by
  rw [Int.tdiv_eq_ediv_of_nonneg (Int.natCast_nonneg _)]
  unfold Has33Bits kPcrTicksPerPtsTick MAX_PCR PTS_DTS_SCALE at *
  omega

theorem sample?_shift (k : Int) (pcrPid : Option PID) {packet : PacketView}
    (hrange : packet.hasPCR = true → packet.getPCR < 300 * PTS_DTS_SCALE) :
    sample? pcrPid (packet.shift k) = (sample? pcrPid packet).map (Sample.shift k) := by
  cases hpcr : packet.hasPCR with
  | false => simp [sample?, PacketView.shift, hpcr]
  | true =>
    have hmoved : packet.shift k = { packet with getPCR := shiftPcr k packet.getPCR } := if_pos hpcr
    have hle : packet.getPCR ≤ MAX_PCR := Nat.le_pred_of_lt (hrange hpcr)
    rw [hmoved, sample?, sample?]
    by_cases hpid : pcrPid = some packet.getPID
    · rw [if_pos ⟨hpid, hpcr, shiftPcr_le k _⟩, if_pos ⟨hpid, hpcr, hle⟩]
      simp only [Option.map_some, Sample.shift, tdiv_shiftPcr]
    · rw [if_neg fun h => hpid h.1, if_neg fun h => hpid h.1]
      rfl

theorem has33Bits_of_sample? {pcrPid : Option PID} {packet : PacketView} {s : Sample}
    (h : sample? pcrPid packet = some s) : Has33Bits s.pcr90k := by
  unfold sample? at h
  split at h
  · next hcounts =>
    cases h
    exact has33Bits_tdiv hcounts.2.2
  · cases h

theorem ProgramClock.InRange.adoptNewPcrSeries {c : ProgramClock} {x : Int} (hx : Has33Bits x) :
    (c.adoptNewPcrSeries x).InRange :=
  ⟨fun y hy => (by cases hy; exact hx), fun r hr => (by cases hr)⟩

section
variable [TSDuck]

/-- The code's difference is the nearest one modulo `PTS_DTS_SCALE`. -/
theorem wrapAwareDelta90k_eq_nearest (hdiff : DiffPTSSpec) {a b : Int} (ha : Has33Bits a)
    (hb : Has33Bits b) : wrapAwareDelta90k a b = Wrap.nearest PTS_DTS_SCALE a b := by
  have hdist : ∀ x y : Int, Has33Bits x → Has33Bits y →
      (TSDuck.diffPTS (toUInt64 x) (toUInt64 y) : Int) = Wrap.forward PTS_DTS_SCALE x y := by
    intro x y hx hy
    unfold Has33Bits PTS_DTS_SCALE at hx hy
    rw [hdiff _ _ (by unfold toUInt64 PTS_DTS_SCALE; omega) (by unfold toUInt64 PTS_DTS_SCALE; omega)]
    unfold toUInt64 PTS_DTS_SCALE Wrap.forward
    omega
  unfold wrapAwareDelta90k Wrap.nearest
  simp only [← hdist a b ha hb, ← hdist b a hb ha, Int.ofNat_le]

theorem wrapAwareDelta90k_shift (hdiff : DiffPTSSpec) (k : Int) {a b : Int} (ha : Has33Bits a)
    (hb : Has33Bits b) :
    wrapAwareDelta90k (Wrap.shift PTS_DTS_SCALE k a) (Wrap.shift PTS_DTS_SCALE k b) = wrapAwareDelta90k a b := by
  rw [wrapAwareDelta90k_eq_nearest hdiff (has33Bits_shift k a) (has33Bits_shift k b),
    wrapAwareDelta90k_eq_nearest hdiff ha hb, Wrap.nearest_shift]

/-! ## One call -/

theorem outOfSeries_shift (hdiff : DiffPTSSpec) (k : Int) {s : Sample} {last : Option Int}
    (hs : Has33Bits s.pcr90k) (hlast : ∀ x ∈ last, Has33Bits x) :
    (s.shift k).outOfSeries (last.map (Wrap.shift PTS_DTS_SCALE k)) = s.outOfSeries last := by
  cases last with
  | none => rfl
  | some x =>
    simp only [Sample.outOfSeries, Sample.shift, Option.map_some, Option.any_some,
      wrapAwareDelta90k_shift hdiff k (hlast x rfl) hs]

namespace ProgramClock

theorem InRange.recordPcr {c : ProgramClock} (hc : c.InRange) (packet : PacketView) :
    (c.recordPcr packet).1.InRange := by
  cases hs : sample? c.pcrPid packet with
  | none => rw [recordPcr_of_none hs]; exact hc
  | some s =>
    have hx := has33Bits_of_sample? hs
    rw [recordPcr_of_some hs]
    split
    · exact InRange.adoptNewPcrSeries hx
    · split
      · rw [handleSuspectPcrDiscontinuity_eq]
        split
        · exact InRange.adoptNewPcrSeries hx
        · exact ⟨hc.last, hc.reference⟩
      · exact ⟨fun y hy => (by cases hy; exact hx), hc.reference⟩

/-- Every call keeps the PCRs in 33 bits. -/
theorem InRange.step {c : ProgramClock} (hc : c.InRange) (call : ClockCall) :
    (c.step call).1.InRange := by
  cases call with
  | ptsToUnixMs pts90k => exact hc
  | recordPcr packet => exact hc.recordPcr packet
  | setPcrPid pid =>
    simp only [ProgramClock.step, setPcrPid]
    split
    · exact hc
    · split
      · exact hc
      · exact ⟨fun x hx => (by cases hx), fun r hr => (by cases hr)⟩
  | updateReferencePointFromTot tot =>
    simp only [ProgramClock.step, updateReferencePointFromTot_eq]
    refine ⟨hc.last, fun r hr => ?_⟩
    rcases Option.or_eq_some_iff.mp hr with hnew | ⟨-, hold⟩
    · split at hnew
      · obtain ⟨unixMs, -, hmap⟩ := Option.bind_eq_some_iff.mp hnew
        obtain ⟨x, hx, rfl⟩ := Option.map_eq_some_iff.mp hmap
        exact hc.last x hx
      · cases hnew
    · exact hc.reference r hold

theorem recordPcr_shift (hdiff : DiffPTSSpec) (k : Int) {c : ProgramClock} (hc : c.InRange)
    {packet : PacketView} (hrange : packet.hasPCR = true → packet.getPCR < 300 * PTS_DTS_SCALE) :
    (c.shift k).recordPcr (packet.shift k) = ((c.recordPcr packet).1.shift k, (c.recordPcr packet).2) := by
  have hsample : sample? (c.shift k).pcrPid (packet.shift k) = (sample? c.pcrPid packet).map (Sample.shift k) :=
    sample?_shift k c.pcrPid hrange
  have hpid : (packet.shift k).getPID = packet.getPID := by
    unfold PacketView.shift
    split <;> rfl
  cases hs : sample? c.pcrPid packet with
  | none =>
    rw [hs, Option.map_none] at hsample
    rw [recordPcr_of_none hs, recordPcr_of_none hsample]
  | some s =>
    rw [hs, Option.map_some] at hsample
    have hout : (s.shift k).outOfSeries (c.shift k).lastPcr90k = s.outOfSeries c.lastPcr90k :=
      outOfSeries_shift hdiff k (has33Bits_of_sample? hs) hc.last
    rw [recordPcr_of_some hs, recordPcr_of_some hsample, hout, hpid]
    by_cases hflag : s.flagged = true
    · rw [if_pos hflag, if_pos (show (s.shift k).flagged = true from hflag)]
      rfl
    · rw [if_neg hflag, if_neg (show ¬ (s.shift k).flagged = true from hflag)]
      by_cases hseries : s.outOfSeries c.lastPcr90k = true
      · rw [if_pos hseries, if_pos hseries, handleSuspectPcrDiscontinuity_eq,
          handleSuspectPcrDiscontinuity_eq]
        by_cases hcount : 0 < c.suspectPcrCount
        · rw [if_pos hcount, if_pos (show 0 < (c.shift k).suspectPcrCount from hcount)]
          rfl
        · rw [if_neg hcount, if_neg (show ¬ 0 < (c.shift k).suspectPcrCount from hcount)]
          rfl
      · rw [if_neg hseries, if_neg hseries]
        rfl

theorem ptsToUnixMs_shift (hdiff : DiffPTSSpec) (k : Int) {c : ProgramClock} (hc : c.InRange)
    {pts90k : ℕ}
    (hpts : pts90k < PTS_DTS_SCALE) : (c.shift k).ptsToUnixMs (shiftPts k pts90k) = c.ptsToUnixMs pts90k := by
  have hmax : ¬ MAX_PTS_DTS < pts90k := Nat.not_lt.mpr (Nat.le_pred_of_lt hpts)
  have hmax' : ¬ MAX_PTS_DTS < shiftPts k pts90k := Nat.not_lt.mpr (Nat.le_pred_of_lt (shiftPts_lt k pts90k))
  unfold ptsToUnixMs
  cases hr : c.referencePoint with
  | none => simp [shift, hr]
  | some r =>
    have hbits : Has33Bits pts90k := ⟨Int.natCast_nonneg _, by exact_mod_cast hpts⟩
    simp only [shift, hr, Option.map_some, hmax, hmax', or_false, shiftPts_cast,
      wrapAwareDelta90k_shift hdiff k (hc.reference r hr) hbits]

/-- The moved call on the moved clock: the same answer, and the moved next state. -/
theorem step_shift (hdiff : DiffPTSSpec) (k : Int) {c : ProgramClock} (hc : c.InRange)
    {call : ClockCall}
    (hrange : call.InRange) : (c.shift k).step (call.shift k) = ((c.step call).1.shift k, (c.step call).2) := by
  cases call with
  | recordPcr packet => simp only [ClockCall.shift, step, recordPcr_shift hdiff k hc hrange]
  | ptsToUnixMs pts90k => simp only [ClockCall.shift, step, ptsToUnixMs_shift hdiff k hc hrange]
  | setPcrPid pid =>
    simp only [ClockCall.shift, step, setPcrPid]
    by_cases hnull : pid = PID_NULL
    · simp [hnull]
    · by_cases hsame : c.pcrPid = some pid <;> simp [hnull, hsame, shift, clearSuspect]
  | updateReferencePointFromTot tot =>
    obtain ⟨pcrPid, lastPcr90k, referencePoint, suspectPcrCount⟩ := c
    simp only [ClockCall.shift, step, updateReferencePointFromTot_eq, shift]
    by_cases hcond : tot.isValid = true ∧ suspectPcrCount = 0
    · cases lastPcr90k <;> cases jstTimeToUnixMs tot.utcTime <;> simp [hcond]
    · simp [hcond]

end ProgramClock

/-! ## Top theorem -/

/-- **The wraps are invisible.**  Moving the time base of a run changes no answer. -/
theorem answers_shift (hdiff : DiffPTSSpec) (k : Int) (calls : List ClockCall)
    (hrange : ∀ call ∈ calls, call.InRange) :
    Machine.answers ProgramClock.step {} (calls.map (ClockCall.shift k)) =
      Machine.answers ProgramClock.step {} calls := by
  have hfresh : ({} : ProgramClock).InRange := ⟨fun x hx => (by cases hx), fun r hr => (by cases hr)⟩
  symm
  refine Machine.answers_eq_of_rel (R := fun c d => d = c.shift k ∧ c.InRange) ?_ ?_ ⟨rfl, hfresh⟩ calls hrange
  · rintro c _ call hcall ⟨rfl, hc⟩
    exact ⟨congrArg Prod.fst (ProgramClock.step_shift hdiff k hc hcall), hc.step call⟩
  · rintro c _ call hcall ⟨rfl, hc⟩
    exact (congrArg Prod.snd (ProgramClock.step_shift hdiff k hc hcall)).symm

end

/-- A PCR at the end of its range and one second later, a TOT between, and a PTS. -/
def callsAcrossWrap : List ClockCall :=
  [.setPcrPid 0x100,
    .recordPcr ⟨true, 0x100, true, MAX_PCR, false⟩,
    .updateReferencePointFromTot ⟨true, 40587 * 86400000 + 32400000⟩,
    .recordPcr ⟨true, 0x100, true, 27000000, false⟩,
    .ptsToUnixMs 45000]

theorem answers_shift_acrossWrap :
    @Machine.answers _ _ _ (@ProgramClock.step TSDuck.documented) {} (callsAcrossWrap.map (ClockCall.shift (-1))) =
      @Machine.answers _ _ _ (@ProgramClock.step TSDuck.documented) {} callsAcrossWrap :=
  @answers_shift TSDuck.documented diffPTSSpec_documented (-1) callsAcrossWrap
    (by simp [callsAcrossWrap, ClockCall.InRange, MAX_PCR, PTS_DTS_SCALE])

end AribcapDump
