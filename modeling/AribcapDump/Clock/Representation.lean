import AribcapDump.Clock.Unwrapped

/-!
# The representation of the clock

The optionals of `ProgramClock` depend on each other, and the code relies on it:
`HandleSuspectPcrDiscontinuity` dereferences `pcr_pid_` without a test, the
asserts of `WrapAwareDelta90k` want 33 bits of fields that do not say so, and
they are gone in release builds.

    reference_point_ present  →  last_pcr_90k_ present  →  pcr_pid_ present, not PID_NULL

The checked calls below are the calls with each assert, each `*` of an optional
and each signed operation made a fault of its own.

* `Representation.step`: every call keeps the representation.
* `stepChecked_eq`: in it no checked call faults, and does what the call does.
* `clock_representation`: both for every state reached.
-/

namespace AribcapDump

/-! ## Checked calls -/

inductive ClockFault
  | assertion
  | emptyOptional
  | overflow
deriving DecidableEq, Repr

/-- The value of an operation that has one, a fault otherwise. -/
def orFault {α : Type} (fault : ClockFault) : Option α → Except ClockFault α
  | some a => .ok a
  | none => .error fault

-- the parentheses keep both from rewriting by unfolding, which the kernel would follow into the 33-bit bounds
@[simp] theorem orFault_bind {α β : Type} (fault : ClockFault) (a : α) (f : α → Except ClockFault β) :
    (orFault fault (some a) >>= f) = f a := (rfl)

@[simp] theorem ok_bind {α β : Type} (a : α) (f : α → Except ClockFault β) : (Except.ok a >>= f) = f a := (rfl)

/-- `assert(static_cast<std::uint64_t>(x) <= ts::MAX_PTS_DTS)`. -/
def assertPts (x : Int) : Except ClockFault Unit :=
  if toUInt64 x ≤ MAX_PTS_DTS then .ok () else .error .assertion

section
variable [TSDuck]

def wrapAwareDelta90kChecked (fromPts toPts : Int) : Except ClockFault Int := do
  assertPts fromPts
  assertPts toPts
  orFault .overflow (wrapAwareDelta90k64 fromPts toPts)

/-- `JstTimeToUnixMs`, the subtraction checked. -/
def jstTimeToUnixMsChecked (time : Time) : Except ClockFault (Option Int) :=
  if time = TSDuck.epoch then .ok none
  else if TSDuck.jstToUTC time < TSDuck.unixEpoch then .ok none
  else do
    let unixMs ← orFault .overflow (int64? (TSDuck.jstToUTC time - TSDuck.unixEpoch))
    return some unixMs

namespace ProgramClock

/-- The count is an `int`. -/
def handleSuspectPcrDiscontinuityChecked (c : ProgramClock) (pcr90k : Int) :
    Except ClockFault (ProgramClock × Option PcrDiscontinuity) := do
  let count ← orFault .overflow (if c.suspectPcrCount + 1 < 0x80000000 then some (c.suspectPcrCount + 1) else none)
  let c := { c with suspectPcrCount := count }
  if kSuspectPcrConfirmCount ≤ c.suspectPcrCount then
    let c := c.adoptNewPcrSeries pcr90k
    let pid ← orFault .emptyOptional c.pcrPid
    return (c, some ⟨pid, false⟩)
  else return (c, none)

def recordPcrChecked (c : ProgramClock) (packet : PacketView) :
    Except ClockFault (ProgramClock × Option PcrDiscontinuity) :=
  if c.pcrPid.isNone then .ok (c, none)
  else do
    let pid ← orFault .emptyOptional c.pcrPid
    if packet.getPID ≠ pid ∨ packet.hasPCR = false then return (c, none)
    else if packet.getPCR = INVALID_PCR ∨ MAX_PCR < packet.getPCR then return (c, none)
    else
      let pcr ← orFault .overflow (int64? packet.getPCR)
      let pcr90k ← orFault .overflow (int64? (Int.tdiv pcr kPcrTicksPerPtsTick))
      if packet.getDiscontinuityIndicator then
        let c := c.adoptNewPcrSeries pcr90k
        let pid ← orFault .emptyOptional c.pcrPid
        return (c, some ⟨pid, true⟩)
      else if c.lastPcr90k.isNone then return ({ c with lastPcr90k := some pcr90k }.clearSuspect, none)
      else
        let last ← orFault .emptyOptional c.lastPcr90k
        let delta90k ← wrapAwareDelta90kChecked last pcr90k
        if isSanePcrDelta delta90k then return ({ c with lastPcr90k := some pcr90k }.clearSuspect, none)
        else c.handleSuspectPcrDiscontinuityChecked pcr90k

def updateReferencePointFromTotChecked (c : ProgramClock) (tot : TOT) : Except ClockFault ProgramClock :=
  if tot.isValid = false then .ok c
  else do
    let unixMs ← jstTimeToUnixMsChecked tot.utcTime
    if unixMs.isNone then return c
    else if c.lastPcr90k.isNone ∨ 0 < c.suspectPcrCount then return c
    else
      let last ← orFault .emptyOptional c.lastPcr90k
      let unixMs ← orFault .emptyOptional unixMs
      return { c with referencePoint := some ⟨last, unixMs⟩ }

def ptsToUnixMsChecked (c : ProgramClock) (pts90k : ℕ) : Except ClockFault (Option Int) :=
  if c.referencePoint.isNone ∨ 0 < c.suspectPcrCount ∨ MAX_PTS_DTS < pts90k then .ok none
  else do
    let reference ← orFault .emptyOptional c.referencePoint
    let toPts ← orFault .overflow (int64? pts90k)
    let delta90k ← wrapAwareDelta90kChecked reference.pcr90k toPts
    let scaled ← orFault .overflow (int64? (delta90k * kMillisPerSecond))
    let offsetMs ← orFault .overflow (int64? (Int.tdiv scaled kPtsTicksPerSecond))
    let unixMs ← orFault .overflow (int64? (reference.unixMs + offsetMs))
    return some unixMs

/-- One checked call. -/
def stepChecked (c : ProgramClock) : ClockCall → Except ClockFault (ProgramClock × ClockAnswer)
  | .setPcrPid pid => .ok (c.setPcrPid pid, .nothing)
  | .recordPcr packet => (c.recordPcrChecked packet).map fun r => (r.1, .discontinuity r.2)
  | .updateReferencePointFromTot tot => (c.updateReferencePointFromTotChecked tot).map (·, .nothing)
  | .ptsToUnixMs pts90k => (c.ptsToUnixMsChecked pts90k).map fun unixMs => (c, .unixMs unixMs)

end ProgramClock

end

/-! ## The representation -/

namespace ProgramClock

/-- What the optionals and the suspect count say of each other. -/
structure Representation (c : ProgramClock) : Prop extends c.InRange where
  last_of_reference : c.referencePoint.isSome = true → c.lastPcr90k.isSome = true
  pid_of_last : c.lastPcr90k.isSome = true → c.pcrPid.isSome = true
  pid_ne_null : c.pcrPid ≠ some PID_NULL
  suspect_le : c.suspectPcrCount ≤ 1
  last_of_suspect : c.suspectPcrCount = 1 → c.lastPcr90k.isSome = true

theorem representation_fresh : ({} : ProgramClock).Representation where
  last := fun _ h => (by cases h)
  reference := fun _ h => (by cases h)
  last_of_reference := id
  pid_of_last := id
  pid_ne_null := by decide
  suspect_le := by decide
  last_of_suspect := fun h => (by cases h)

variable {c : ProgramClock}

/-- The PCR of a sample starts a new series. -/
theorem Representation.adoptNewPcrSeries (h : c.Representation) (hpid : c.pcrPid.isSome = true) {pcr90k : Int}
    (hpcr : Has33Bits pcr90k) : (c.adoptNewPcrSeries pcr90k).Representation where
  toInRange := InRange.adoptNewPcrSeries hpcr
  last_of_reference := fun _ => rfl
  pid_of_last := fun _ => hpid
  pid_ne_null := h.pid_ne_null
  suspect_le := Nat.zero_le 1
  last_of_suspect := fun _ => rfl

theorem Representation.setPcrPid (h : c.Representation) (pid : PID) : (c.setPcrPid pid).Representation := by
  unfold ProgramClock.setPcrPid
  split
  · exact h
  · next hnull =>
    split
    · exact h
    · exact {
        last := fun _ h => (by cases h)
        reference := fun _ h => (by cases h)
        last_of_reference := id
        pid_of_last := fun _ => rfl
        pid_ne_null := fun heq => hnull (Option.some.inj heq)
        suspect_le := Nat.zero_le 1
        last_of_suspect := fun h => (by cases h) }

theorem isSome_of_sample? {packet : PacketView} {s : Sample} (h : sample? c.pcrPid packet = some s) :
    c.pcrPid.isSome = true := by
  unfold sample? at h
  split at h
  · next hcounts =>
    rw [hcounts.1]
    rfl
  · cases h

section
variable [TSDuck]

theorem isSome_of_outOfSeries {s : Sample} {last : Option Int} (h : s.outOfSeries last = true) :
    last.isSome = true := by
  cases last with
  | none => simp [Sample.outOfSeries] at h
  | some last => rfl

theorem Representation.recordPcr (h : c.Representation) (packet : PacketView) :
    (c.recordPcr packet).1.Representation := by
  cases hs : sample? c.pcrPid packet with
  | none =>
    rw [recordPcr_of_none hs]
    exact h
  | some s =>
    have hpid := isSome_of_sample? hs
    have hpcr := has33Bits_of_sample? hs
    rw [recordPcr_of_some hs]
    split
    · exact h.adoptNewPcrSeries hpid hpcr
    · split
      · next hout =>
        have hlast := isSome_of_outOfSeries hout
        rw [handleSuspectPcrDiscontinuity_eq]
        split
        · exact h.adoptNewPcrSeries hpid hpcr
        · next hfirst =>
          exact {
            toInRange := ⟨h.last, h.reference⟩
            last_of_reference := h.last_of_reference
            pid_of_last := h.pid_of_last
            pid_ne_null := h.pid_ne_null
            suspect_le := Nat.succ_le_succ (Nat.not_lt.mp hfirst)
            last_of_suspect := fun _ => hlast }
      · exact {
          last := fun _ h => (by cases h; exact hpcr)
          reference := h.reference
          last_of_reference := fun _ => rfl
          pid_of_last := fun _ => hpid
          pid_ne_null := h.pid_ne_null
          suspect_le := Nat.zero_le 1
          last_of_suspect := fun _ => rfl }

theorem Representation.updateReferencePointFromTot (h : c.Representation) (tot : TOT) :
    (c.updateReferencePointFromTot tot).Representation := by
  have hinRange : (c.updateReferencePointFromTot tot).InRange := h.toInRange.step (.updateReferencePointFromTot tot)
  have hlast : (c.updateReferencePointFromTot tot).referencePoint.isSome = true → c.lastPcr90k.isSome = true := by
    intro hreference
    obtain ⟨reference, href⟩ := Option.isSome_iff_exists.mp hreference
    rcases @referencePoint_step _ c (.updateReferencePointFromTot tot) reference href with hkept | ⟨_, -, -, hpaired⟩
    · exact h.last_of_reference (Option.isSome_of_eq_some hkept)
    · exact Option.isSome_of_eq_some hpaired
  rw [updateReferencePointFromTot_eq] at hinRange hlast ⊢
  exact ⟨hinRange, hlast, h.pid_of_last, h.pid_ne_null, h.suspect_le, h.last_of_suspect⟩

/-- **One call** keeps the representation. -/
theorem Representation.step (h : c.Representation) (call : ClockCall) : (c.step call).1.Representation := by
  cases call with
  | setPcrPid pid => exact h.setPcrPid pid
  | recordPcr packet => exact h.recordPcr packet
  | updateReferencePointFromTot tot => exact h.updateReferencePointFromTot tot
  | ptsToUnixMs pts90k => exact h

/-- **The calls** from a fresh clock on. -/
theorem representation_run (calls : List ClockCall) : (Machine.run ProgramClock.step {} calls).Representation :=
  Machine.run_invariant ProgramClock.step (fun _ call h => h.step call) representation_fresh calls

end

end ProgramClock

/-! ## No fault -/

theorem assertPts_ok {x : Int} (hx : Has33Bits x) : assertPts x = .ok () := by
  apply if_pos
  unfold Has33Bits toUInt64 MAX_PTS_DTS PTS_DTS_SCALE at *
  omega

section
variable [TSDuck]

/-- The time of a TOT lies below `2^62` milliseconds. -/
def TimeFits (time : Time) : Prop := TSDuck.jstToUTC time - TSDuck.unixEpoch < 0x4000000000000000

theorem wrapAwareDelta90kChecked_eq (hdiff : DiffPTSSpec) {a b : Int} (ha : Has33Bits a) (hb : Has33Bits b) :
    wrapAwareDelta90kChecked a b = .ok (wrapAwareDelta90k a b) := by
  unfold wrapAwareDelta90kChecked
  rw [assertPts_ok ha, assertPts_ok hb, wrapAwareDelta90k64_eq hdiff ha hb]
  rfl

theorem jstTimeToUnixMsChecked_eq {time : Time} (hfits : TimeFits time) :
    jstTimeToUnixMsChecked time = .ok (jstTimeToUnixMs time) := by
  unfold jstTimeToUnixMsChecked jstTimeToUnixMs
  split
  · rfl
  · split
    · rfl
    · next hafter =>
      have hlow : (0 : Int) ≤ TSDuck.jstToUTC time - TSDuck.unixEpoch := Int.sub_nonneg.mpr (Int.not_lt.mp hafter)
      have hhigh : (TSDuck.jstToUTC time - TSDuck.unixEpoch : Int) < 0x4000000000000000 := hfits
      rw [int64?_eq (Int.le_trans (by decide) hlow) (Int.lt_trans hhigh (by decide))]
      rfl

namespace ProgramClock

variable {c : ProgramClock}

omit [TSDuck] in
theorem handleSuspectPcrDiscontinuityChecked_eq (hcount : c.suspectPcrCount ≤ 1) {pid : PID}
    (hpid : c.pcrPid = some pid) (pcr90k : Int) :
    c.handleSuspectPcrDiscontinuityChecked pcr90k = .ok (c.handleSuspectPcrDiscontinuity pid pcr90k) := by
  have hint : (if c.suspectPcrCount + 1 < 0x80000000 then some (c.suspectPcrCount + 1) else none) =
      some (c.suspectPcrCount + 1) := if_pos (by omega)
  unfold handleSuspectPcrDiscontinuityChecked handleSuspectPcrDiscontinuity
  simp only [hint, orFault_bind, adoptNewPcrSeries, clearSuspect, hpid]
  split <;> rfl

omit [TSDuck] in
/-- A valid PCR and its 90 kHz value have less than 64 bits. -/
theorem int64?_pcr {pcr : ℕ} (hmax : pcr ≤ MAX_PCR) :
    int64? pcr = some (pcr : Int) ∧
      int64? (Int.tdiv pcr kPcrTicksPerPtsTick) = some (Int.tdiv pcr kPcrTicksPerPtsTick) := by
  obtain ⟨hlow, hhigh⟩ := has33Bits_tdiv hmax
  unfold MAX_PCR at hmax
  unfold PTS_DTS_SCALE at hmax hhigh
  exact ⟨int64?_eq (by omega) (by omega), int64?_eq (by omega) (by omega)⟩

theorem recordPcrChecked_eq (hdiff : DiffPTSSpec) (h : c.Representation) (packet : PacketView) :
    c.recordPcrChecked packet = .ok (c.recordPcr packet) := by
  unfold recordPcrChecked recordPcr
  cases hpid : c.pcrPid with
  | none => rfl
  | some pid =>
    simp only [Option.isNone_some, Bool.false_eq_true, if_false, orFault_bind]
    split
    · rfl
    · split
      · rfl
      · next hvalid =>
        have hmax : packet.getPCR ≤ MAX_PCR := Nat.not_lt.mp fun hlarge => hvalid (.inr hlarge)
        have hpcr := has33Bits_tdiv hmax
        simp only [(int64?_pcr hmax).1, (int64?_pcr hmax).2, orFault_bind]
        generalize Int.tdiv packet.getPCR kPcrTicksPerPtsTick = pcr90k at hpcr
        split
        · simp only [adoptNewPcrSeries, clearSuspect, hpid, orFault_bind]
          rfl
        · cases hlast : c.lastPcr90k with
          | none => rfl
          | some last =>
            simp only [Option.isNone_some, Bool.false_eq_true, if_false, orFault_bind,
              wrapAwareDelta90kChecked_eq hdiff (h.last last hlast) hpcr, ok_bind]
            split
            · rfl
            · exact handleSuspectPcrDiscontinuityChecked_eq h.suspect_le hpid pcr90k

theorem updateReferencePointFromTotChecked_eq {tot : TOT} (hfits : TimeFits tot.utcTime) :
    c.updateReferencePointFromTotChecked tot = .ok (c.updateReferencePointFromTot tot) := by
  unfold updateReferencePointFromTotChecked updateReferencePointFromTot
  split
  · rfl
  · rw [jstTimeToUnixMsChecked_eq hfits]
    rw [ok_bind]
    cases jstTimeToUnixMs tot.utcTime with
    | none => rfl
    | some unixMs =>
      cases c.lastPcr90k with
      | none => rfl
      | some last =>
        simp only [Option.isNone_some, Bool.false_eq_true, if_false, false_or, orFault_bind]
        split <;> rfl

/-- The times of the reference points lie below `2^62`. -/
def TimesFit (c : ProgramClock) : Prop :=
  ∀ reference, c.referencePoint = some reference → 0 ≤ reference.unixMs ∧ reference.unixMs < 0x4000000000000000

theorem ptsToUnixMsChecked_eq (hdiff : DiffPTSSpec) (h : c.Representation) (htimes : c.TimesFit) (pts90k : ℕ) :
    c.ptsToUnixMsChecked pts90k = .ok (c.ptsToUnixMs pts90k) := by
  unfold ptsToUnixMsChecked ptsToUnixMs
  cases href : c.referencePoint with
  | none => rfl
  | some reference =>
    simp only [Option.isNone_some, Bool.false_eq_true, false_or, orFault_bind]
    by_cases hnone : 0 < c.suspectPcrCount ∨ MAX_PTS_DTS < pts90k
    · rw [if_pos hnone, if_pos hnone]
    rw [if_neg hnone, if_neg hnone]
    have hpts : pts90k < PTS_DTS_SCALE := Nat.lt_of_le_pred (by decide) (Nat.not_lt.mp fun h => hnone (.inr h))
    have hbits : Has33Bits pts90k := ⟨Int.natCast_nonneg _, Int.ofNat_lt.mpr hpts⟩
    have hpcr := h.reference reference href
    have hdelta := wrapAwareDelta90k_eq_nearest hdiff hpcr hbits
    obtain ⟨hlower, hupper⟩ := Wrap.halfTurn_nearest (m := PTS_DTS_SCALE) (by decide) reference.pcr90k pts90k
    rw [← hdelta] at hlower hupper
    obtain ⟨hlow, hhigh⟩ := htimes reference href
    unfold PTS_DTS_SCALE at hpts hlower hupper
    simp only [int64?_eq (x := (pts90k : Int)) (by omega) (by omega), orFault_bind,
      wrapAwareDelta90kChecked_eq hdiff hpcr hbits, ok_bind]
    generalize wrapAwareDelta90k reference.pcr90k pts90k = delta90k at hlower hupper
    have hscaled : int64? (delta90k * kMillisPerSecond) = some (delta90k * kMillisPerSecond) := by
      unfold kMillisPerSecond
      exact int64?_eq (by omega) (by omega)
    have hoffset : -0x100000000 ≤ Int.tdiv delta90k 90 ∧ Int.tdiv delta90k 90 ≤ 0x100000000 := by
      rw [tdiv90_eq]
      omega
    simp only [hscaled, orFault_bind, offsetMs_eq, int64?_eq (x := Int.tdiv delta90k 90) (by omega) (by omega),
      int64?_eq (x := reference.unixMs + Int.tdiv delta90k 90) (by omega) (by omega)]
    rfl

end ProgramClock

/-! ### The times kept -/

/-- The TOT of the call, if it has one, fits. -/
def ClockCall.TimeFits : ClockCall → Prop
  | .updateReferencePointFromTot tot => AribcapDump.TimeFits tot.utcTime
  | _ => True

namespace ProgramClock

variable {c : ProgramClock}

theorem TimesFit.step (h : c.TimesFit) {call : ClockCall} (hfits : call.TimeFits) : (c.step call).1.TimesFit := by
  intro reference href
  rcases referencePoint_step href with hkept | ⟨tot, rfl, htime, -⟩
  · exact h reference hkept
  · obtain ⟨hnonneg, hsub⟩ := jstTimeToUnixMs_eq_sub htime
    exact ⟨hnonneg, hsub ▸ hfits⟩

theorem timesFit_run (calls : List ClockCall) (hfits : ∀ call ∈ calls, call.TimeFits) :
    (Machine.run ProgramClock.step {} calls).TimesFit :=
  Machine.run_invariant_of_forall ProgramClock.step (fun _ _ hcall h => h.step hcall)
    (fun _ h => (by cases h)) calls hfits

/-- **One checked call** in the representation: no fault, and what the call does. -/
theorem stepChecked_eq (hdiff : DiffPTSSpec) (h : c.Representation) (htimes : c.TimesFit) {call : ClockCall}
    (hfits : call.TimeFits) : c.stepChecked call = .ok (c.step call) := by
  cases call with
  | setPcrPid pid => rfl
  | recordPcr packet =>
    rw [stepChecked, recordPcrChecked_eq hdiff h packet]
    rfl
  | updateReferencePointFromTot tot =>
    rw [stepChecked, updateReferencePointFromTotChecked_eq hfits]
    rfl
  | ptsToUnixMs pts90k =>
    rw [stepChecked, ptsToUnixMsChecked_eq hdiff h htimes pts90k]
    rfl

end ProgramClock

/-- **The representation holds in every state reached, and no call faults there.** -/
theorem clock_representation (calls : List ClockCall) :
    let c := Machine.run ProgramClock.step {} calls
    c.Representation ∧
      (DiffPTSSpec → (∀ call ∈ calls, call.TimeFits) → ∀ call : ClockCall, call.TimeFits →
        c.stepChecked call = .ok (c.step call)) := by
  have h := ProgramClock.representation_run calls
  exact ⟨h, fun hdiff hfits call hcall =>
    ProgramClock.stepChecked_eq hdiff h (ProgramClock.timesFit_run calls hfits) hcall⟩

end

/-- A PCR, a TOT that it is paired with, a PCR out of series. -/
def clockWithSuspect : List ClockCall :=
  [.setPcrPid 0x100, .recordPcr ⟨true, 0x100, true, 300 * 90000, false⟩,
    .updateReferencePointFromTot ⟨true, 40587 * 86400000 + 9 * 3600000 + 1577804400000⟩,
    .recordPcr ⟨true, 0x100, true, 300 * 900000, false⟩]

theorem clock_representation_suspect :
    (@Machine.run _ _ _ (@ProgramClock.step TSDuck.documented) {} clockWithSuspect).Representation ∧
      (@ProgramClock.stepChecked TSDuck.documented
          (@Machine.run _ _ _ (@ProgramClock.step TSDuck.documented) {} clockWithSuspect)
          (.recordPcr ⟨true, 0x100, true, 300 * 990000, false⟩)).map (·.2) =
        .ok (.discontinuity (some ⟨0x100, false⟩)) := by
  obtain ⟨hrep, hnofault⟩ := @clock_representation TSDuck.documented clockWithSuspect
  refine ⟨hrep, ?_⟩
  have hfits : ∀ call ∈ clockWithSuspect, @ClockCall.TimeFits TSDuck.documented call := by
    have htot : (40587 * 86400000 + 9 * 3600000 + 1577804400000 - 9 * 3600000 - 40587 * 86400000 : Int) <
        0x4000000000000000 := by decide
    intro call hcall
    simp only [clockWithSuspect, List.mem_cons, List.not_mem_nil, or_false] at hcall
    rcases hcall with rfl | rfl | rfl | rfl
    · trivial
    · trivial
    · exact htot
    · trivial
  rw [hnofault diffPTSSpec_documented hfits (.recordPcr _) trivial]
  rfl

end AribcapDump
