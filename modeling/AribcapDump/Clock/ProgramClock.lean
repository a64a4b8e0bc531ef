import AribcapDump.Lib.Machine
import AribcapDump.OutputRecord
import AribcapDump.TsUtils

/-!
# The program clock

`ProgramClock` of core/program_clock: PCR samples of one PID and TOT times,
paired into a reference point that turns a PTS into Unix milliseconds.

PCR and PTS values are `ℕ` as the accessors give them (`uint64_t`) and `Int`
where the code keeps them as `int64_t`; no value here comes near 64 bits.  The
two range asserts of `WrapAwareDelta90k` are compiled out of release builds and
are not part of the function.
-/

namespace AribcapDump

def kPcrTicksPerPtsTick : Int := 300

def kPtsTicksPerSecond : Int := 90000

def kMillisPerSecond : Int := 1000

def kMaxSanePcrDelta90k : Int := 90000

def kSuspectPcrConfirmCount : ℕ := 2

/-- The PCR/wall-clock pair used to convert a PTS. -/
structure ReferencePoint where
  pcr90k : Int
  unixMs : Int
deriving DecidableEq

structure ProgramClock where
  pcrPid : Option PID := none
  lastPcr90k : Option Int := none
  referencePoint : Option ReferencePoint := none
  suspectPcrCount : ℕ := 0
deriving DecidableEq

/-- `static_cast<std::uint64_t>`. -/
def toUInt64 (x : Int) : ℕ := (x % 0x10000000000000000).toNat

def isSanePcrDelta (delta90k : Int) : Bool :=
  decide (0 ≤ delta90k) && decide (delta90k ≤ kMaxSanePcrDelta90k)

section
variable [TSDuck]

/-- The signed difference `toPts - fromPts` around the 33-bit wrap, in the nearer direction. -/
def wrapAwareDelta90k (fromPts toPts : Int) : Int :=
  let forward := TSDuck.diffPTS (toUInt64 fromPts) (toUInt64 toPts)
  let backward := TSDuck.diffPTS (toUInt64 toPts) (toUInt64 fromPts)
  if forward ≤ backward then (forward : Int) else -(backward : Int)

namespace ProgramClock

def clearSuspect (c : ProgramClock) : ProgramClock := { c with suspectPcrCount := 0 }

def setPcrPid (c : ProgramClock) (pid : PID) : ProgramClock :=
  if pid = PID_NULL then c
  else if c.pcrPid = some pid then c
  else { c with pcrPid := some pid, lastPcr90k := none, referencePoint := none }.clearSuspect

def adoptNewPcrSeries (c : ProgramClock) (pcr90k : Int) : ProgramClock :=
  { c with lastPcr90k := some pcr90k, referencePoint := none }.clearSuspect

/-- `pid` is the tracked PID, `*pcr_pid_`. -/
def handleSuspectPcrDiscontinuity (c : ProgramClock) (pid : PID) (pcr90k : Int) :
    ProgramClock × Option PcrDiscontinuity :=
  let c := { c with suspectPcrCount := c.suspectPcrCount + 1 }
  if kSuspectPcrConfirmCount ≤ c.suspectPcrCount then
    (c.adoptNewPcrSeries pcr90k, some ⟨pid, false⟩)
  else (c, none)

def recordPcr (c : ProgramClock) (packet : PacketView) : ProgramClock × Option PcrDiscontinuity :=
  match c.pcrPid with
  | none => (c, none)
  | some pid =>
    if packet.getPID ≠ pid ∨ packet.hasPCR = false then (c, none)
    else if packet.getPCR = INVALID_PCR ∨ MAX_PCR < packet.getPCR then (c, none)
    else
      let pcr90k := Int.tdiv packet.getPCR kPcrTicksPerPtsTick
      if packet.getDiscontinuityIndicator then (c.adoptNewPcrSeries pcr90k, some ⟨pid, true⟩)
      else
        match c.lastPcr90k with
        | none => ({ c with lastPcr90k := some pcr90k }.clearSuspect, none)
        | some last =>
          if isSanePcrDelta (wrapAwareDelta90k last pcr90k) then
            ({ c with lastPcr90k := some pcr90k }.clearSuspect, none)
          else c.handleSuspectPcrDiscontinuity pid pcr90k

def updateReferencePointFromTot (c : ProgramClock) (tot : TOT) : ProgramClock :=
  if tot.isValid = false then c
  else
    match jstTimeToUnixMs tot.utcTime with
    | none => c
    | some unixMs =>
      match c.lastPcr90k with
      | none => c
      | some last =>
        if 0 < c.suspectPcrCount then c
        else { c with referencePoint := some ⟨last, unixMs⟩ }

def ptsToUnixMs (c : ProgramClock) (pts90k : ℕ) : Option Int :=
  match c.referencePoint with
  | none => none
  | some reference =>
    if 0 < c.suspectPcrCount ∨ MAX_PTS_DTS < pts90k then none
    else
      let delta90k := wrapAwareDelta90k reference.pcr90k pts90k
      let offsetMs := Int.tdiv (delta90k * kMillisPerSecond) kPtsTicksPerSecond
      some (reference.unixMs + offsetMs)

end ProgramClock

/-! ## Runs -/

/-- One call of the public interface. -/
inductive ClockCall
  | setPcrPid (pid : PID)
  | recordPcr (packet : PacketView)
  | updateReferencePointFromTot (tot : TOT)
  | ptsToUnixMs (pts90k : ℕ)

/-- What a call returns. -/
inductive ClockAnswer
  | nothing
  | discontinuity (result : Option PcrDiscontinuity)
  | unixMs (result : Option Int)
deriving DecidableEq

def ProgramClock.step (c : ProgramClock) : ClockCall → ProgramClock × ClockAnswer
  | .setPcrPid pid => (c.setPcrPid pid, .nothing)
  | .recordPcr packet => ((c.recordPcr packet).1, .discontinuity (c.recordPcr packet).2)
  | .updateReferencePointFromTot tot => (c.updateReferencePointFromTot tot, .nothing)
  | .ptsToUnixMs pts90k => (c, .unixMs (c.ptsToUnixMs pts90k))

/-! ## What one call does -/

/-- A valid PCR on the tracked PID, as `RecordPcr` reads it. -/
structure Sample where
  pcr90k : Int
  flagged : Bool
deriving DecidableEq

/-- The sample `packet` carries when `pcrPid` is tracked, if it counts. -/
def sample? (pcrPid : Option PID) (packet : PacketView) : Option Sample :=
  if pcrPid = some packet.getPID ∧ packet.hasPCR = true ∧ packet.getPCR ≤ MAX_PCR then
    some ⟨Int.tdiv packet.getPCR kPcrTicksPerPtsTick, packet.getDiscontinuityIndicator⟩
  else none

/-- The sample is not flagged and does not continue the series whose last PCR is `last`. -/
def Sample.outOfSeries (s : Sample) (last : Option Int) : Bool :=
  !s.flagged && last.any fun last => !isSanePcrDelta (wrapAwareDelta90k last s.pcr90k)

namespace ProgramClock

theorem recordPcr_of_none {c : ProgramClock} {packet : PacketView}
    (h : sample? c.pcrPid packet = none) : c.recordPcr packet = (c, none) := by
  unfold recordPcr
  cases hpid : c.pcrPid with
  | none => rfl
  | some pid =>
    simp only [sample?, hpid, ite_eq_right_iff, reduceCtorEq, imp_false, not_and,
      Option.some.injEq] at h
    by_cases hskip : packet.getPID ≠ pid ∨ packet.hasPCR = false
    · simp only [if_pos hskip]
    · simp only [not_or, not_not, Bool.not_eq_false] at hskip
      have hbig : MAX_PCR < packet.getPCR := Nat.not_le.mp (h hskip.1.symm hskip.2)
      simp only [hskip.1, hskip.2, ne_eq, not_true_eq_false, reduceCtorEq, or_self, if_false,
        if_pos (Or.inr hbig)]

theorem recordPcr_of_some {c : ProgramClock} {packet : PacketView} {s : Sample}
    (h : sample? c.pcrPid packet = some s) :
    c.recordPcr packet =
      if s.flagged then (c.adoptNewPcrSeries s.pcr90k, some ⟨packet.getPID, true⟩)
      else if s.outOfSeries c.lastPcr90k then c.handleSuspectPcrDiscontinuity packet.getPID s.pcr90k
      else ({ c with lastPcr90k := some s.pcr90k }.clearSuspect, none) := by
  unfold sample? at h
  split at h
  · next hcounts =>
    obtain ⟨hpid, hpcr, hmax⟩ := hcounts
    cases h
    have hvalid : ¬ (packet.getPCR = INVALID_PCR ∨ MAX_PCR < packet.getPCR) := by
      unfold INVALID_PCR MAX_PCR PTS_DTS_SCALE at *
      omega
    unfold recordPcr
    simp only [hpid, hpcr, ne_eq, not_true_eq_false, reduceCtorEq, or_self, if_false, if_neg hvalid,
      Sample.outOfSeries]
    generalize Int.tdiv packet.getPCR kPcrTicksPerPtsTick = pcr90k
    cases hflag : packet.getDiscontinuityIndicator with
    | true => rfl
    | false =>
      cases hlast : c.lastPcr90k with
      | none => rfl
      | some last => cases hsane : isSanePcrDelta (wrapAwareDelta90k last pcr90k) <;> simp [hsane]
  · cases h

omit [TSDuck] in
theorem handleSuspectPcrDiscontinuity_eq (c : ProgramClock) (pid : PID) (pcr90k : Int) :
    c.handleSuspectPcrDiscontinuity pid pcr90k =
      if 0 < c.suspectPcrCount then (c.adoptNewPcrSeries pcr90k, some ⟨pid, false⟩)
      else ({ c with suspectPcrCount := c.suspectPcrCount + 1 }, none) := by
  unfold handleSuspectPcrDiscontinuity kSuspectPcrConfirmCount
  by_cases hcount : 0 < c.suspectPcrCount
  · rw [if_pos hcount, if_pos (Nat.succ_le_succ hcount)]
    rfl
  · rw [if_neg hcount, if_neg fun h => hcount (Nat.le_of_succ_le_succ h)]

theorem updateReferencePointFromTot_eq (c : ProgramClock) (tot : TOT) :
    c.updateReferencePointFromTot tot =
      { c with referencePoint :=
          (if tot.isValid = true ∧ c.suspectPcrCount = 0 then
            (jstTimeToUnixMs tot.utcTime).bind fun unixMs => c.lastPcr90k.map fun last => ⟨last, unixMs⟩
          else none).or c.referencePoint } := by
  obtain ⟨pcrPid, lastPcr90k, referencePoint, suspectPcrCount⟩ := c
  unfold updateReferencePointFromTot
  cases tot.isValid with
  | false => simp
  | true =>
    cases jstTimeToUnixMs tot.utcTime with
    | none => simp
    | some unixMs =>
      cases lastPcr90k with
      | none => simp
      | some last => by_cases hcount : suspectPcrCount = 0 <;> simp [hcount, Nat.pos_iff_ne_zero]

/-- A reference point after a call was there before it, or pairs the last PCR with the time of the TOT. -/
theorem referencePoint_step {c : ProgramClock} {call : ClockCall} {r : ReferencePoint}
    (h : (c.step call).1.referencePoint = some r) :
    c.referencePoint = some r ∨ ∃ tot, call = .updateReferencePointFromTot tot ∧
      jstTimeToUnixMs tot.utcTime = some r.unixMs ∧ c.lastPcr90k = some r.pcr90k := by
  cases call with
  | ptsToUnixMs pts90k => exact .inl h
  | setPcrPid pid =>
    simp only [step, setPcrPid] at h
    split at h
    · exact .inl h
    · split at h
      · exact .inl h
      · cases h
  | recordPcr packet =>
    simp only [step] at h
    cases hs : sample? c.pcrPid packet with
    | none =>
      rw [recordPcr_of_none hs] at h
      exact .inl h
    | some s =>
      rw [recordPcr_of_some hs] at h
      split at h
      · cases h
      · split at h
        · rw [handleSuspectPcrDiscontinuity_eq] at h
          split at h
          · cases h
          · exact .inl h
        · exact .inl h
  | updateReferencePointFromTot tot =>
    simp only [step, updateReferencePointFromTot_eq] at h
    rcases Option.or_eq_some_iff.mp h with hgiven | ⟨-, hkept⟩
    · split at hgiven
      · obtain ⟨unixMs, htime, hmap⟩ := Option.bind_eq_some_iff.mp hgiven
        obtain ⟨pcr90k, hlast, rfl⟩ := Option.map_eq_some_iff.mp hmap
        exact .inr ⟨tot, rfl, htime, hlast⟩
      · cases hgiven
    · exact .inl hkept

end ProgramClock

end

end AribcapDump
