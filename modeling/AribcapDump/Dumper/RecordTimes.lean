import AribcapDump.Clock.Unwrapped
import AribcapDump.Dumper.ClockSource

/-!
# Times before the Unix epoch

`UnixMsToRfc3339Jst` wants a time that is not negative.  A TOT and an event
start before 1970 are refused, but a PTS may lie up to half a turn of the
33-bit counter (13 hours) before the reference PCR, which may be less than that
after 1970.

* `convert_nonneg_iff`: the times that come out negative.
* `recordTimes_nonneg`: what that says of the records of a run.
-/

namespace AribcapDump

/-- The PTS lies so many ticks behind the reference PCR that the Unix epoch is between them. -/
def ReferencePoint.BeforeEpoch (r : ReferencePoint) (pts90k : ℕ) : Prop :=
  ∃ behind : Int, 90 * (r.unixMs + 1) ≤ behind ∧ behind < 0x100000000 ∧
    (pts90k + behind) % PTS_DTS_SCALE = r.pcr90k

/-- The clock converts the PTS through a reference point that lies so. -/
def ProgramClock.BeforeEpoch (c : ProgramClock) (pts90k : ℕ) : Prop :=
  pts90k < PTS_DTS_SCALE ∧ c.suspectPcrCount = 0 ∧ ∃ r, c.referencePoint = some r ∧ r.BeforeEpoch pts90k

section
variable [TSDuck]

/-! ## The clock -/

/-- A time kept by the clock is not negative. -/
theorem unixMs_nonneg_clock (h : History) {r : ReferencePoint} (href : (clock h).referencePoint = some r) :
    0 ≤ r.unixMs := by
  induction h with
  | nil => cases href
  | cons call h ih =>
    rw [clock_cons] at href
    rcases ProgramClock.referencePoint_step href with hkept | ⟨tot, -, htime, -⟩
    · exact ih hkept
    · exact jstTimeToUnixMs_nonneg htime

/-- A conversion is negative exactly where the PTS is that far behind. -/
theorem convert_nonneg_iff (hdiff : DiffPTSSpec) {r : ReferencePoint} (hpcr : Has33Bits r.pcr90k)
    (htime : 0 ≤ r.unixMs) {pts90k : ℕ} (hpts : pts90k < PTS_DTS_SCALE) :
    0 ≤ r.convert pts90k ↔ ¬ r.BeforeEpoch pts90k := by
  obtain ⟨x, ⟨hx, hat⟩, hunique⟩ := Wrap.existsUnique_halfTurn r.pcr90k (Int.natCast_nonneg pts90k)
    (Int.ofNat_lt.mpr hpts)
  rw [← inWindow_iff] at hx
  have hptsAt : r.ptsAt x = pts90k := by
    rw [← Int.ofNat_inj, r.ptsAt_cast, hat]
  have hvalue : r.convert pts90k = r.unixMs + Int.tdiv x 90 := by
    rw [← hptsAt, r.convert_ptsAt hdiff hpcr hx]
  rw [hvalue, tdiv90_eq]
  obtain ⟨hlower, hupper⟩ := hx
  constructor
  · rintro hnonneg ⟨behind, hfar, hhalf, hback⟩
    -- the PTS is `behind` ticks before the reference, so `x` is `-behind`
    have hstep : -behind = x := by
      refine hunique (-behind) ⟨(inWindow_iff _).mp ⟨by omega, by omega⟩, ?_⟩
      unfold Wrap.shift
      unfold PTS_DTS_SCALE at *
      omega
    subst hstep
    split at hnonneg <;> omega
  · intro hnot
    by_cases hnonneg : 0 ≤ x
    · rw [if_pos hnonneg]
      omega
    · rw [if_neg hnonneg]
      apply Int.not_lt.mp
      intro hnegative
      apply hnot
      refine ⟨-x, by omega, by omega, ?_⟩
      unfold Wrap.shift at hat
      unfold Has33Bits PTS_DTS_SCALE at *
      omega

theorem ptsToUnixMs_nonneg_iff (hdiff : DiffPTSSpec) (h : History) (pts90k : ℕ) :
    (∀ unixMs, (clock h).ptsToUnixMs pts90k = some unixMs → 0 ≤ unixMs) ↔ ¬ (clock h).BeforeEpoch pts90k := by
  constructor
  · rintro hnonneg ⟨hpts, hsuspect, r, href, hbefore⟩
    have hconvert := hnonneg _ (ptsToUnixMs_eq_convert href hsuspect hpts)
    exact (convert_nonneg_iff hdiff ((inRange_clock h).reference r href) (unixMs_nonneg_clock h href) hpts).mp
      hconvert hbefore
  · intro hnot unixMs hunixMs
    rw [ptsToUnixMs_clock] at hunixMs
    split at hunixMs
    · next hcond =>
      obtain ⟨r, hkept, rfl⟩ := Option.map_eq_some_iff.mp hunixMs
      have href : (clock h).referencePoint = some r := by rw [clock_eq]; exact hkept
      have hsuspect : (clock h).suspectPcrCount = 0 := by
        rw [clock_eq]
        exact suspectCount_eq_zero.mpr hcond.2
      rw [convert_nonneg_iff hdiff ((inRange_clock h).reference r href) (unixMs_nonneg_clock h href) hcond.1]
      exact fun hbefore => hnot ⟨hcond.1, hsuspect, r, href, hbefore⟩
    · cases hunixMs

/-! ## The records of a run -/

theorem parseEit_startTime_nonneg {deserialized : DeserializedEit} {record : EitRecord}
    (hmem : record ∈ parseEit deserialized) {unixMs : Int} (htime : record.startTimeMs = some unixMs) :
    0 ≤ unixMs := by
  have hvalid : deserialized.eit.isValid = true := by
    unfold parseEit at hmem
    split at hmem
    · cases hmem
    · next hsome =>
      rw [not_or, Bool.not_eq_false] at hsome
      exact hsome.1
  rw [parseEit_eq deserialized hvalid, List.mem_mapIdx] at hmem
  obtain ⟨i, hi, rfl⟩ := hmem
  exact jstTimeToUnixMs_nonneg htime

namespace CaptionDumper

variable {δ : Type} [CaptionDecoder δ]

/-- An EIT record is one of the records of a table. -/
theorem eit_of_mem_step {d : CaptionDumper δ} {input : Input} {record : EitRecord}
    (hmem : .eit record ∈ (d.step input).2) : ∃ deserialized, record ∈ parseEit deserialized := by
  rcases mem_step_cases hmem with ⟨diagnostic, hdiagnostic⟩ | ⟨packet, emitter, -, -, hanswer⟩ |
    ⟨table, -, eitRecord, hparsed, heit⟩
  · cases hdiagnostic
  · exact absurd hanswer (emitter.eit_notMem_handlePes record)
  · cases heit
    exact ⟨deserializeEit table, hparsed⟩

/-- **The times of the records of a run.**  A conversion is negative exactly where the PTS lies so far behind the
reference that the Unix epoch is between them; an event start never is; and a run without such a PTS on the PID of a
caption emitter gives no record with a negative time. -/
theorem recordTimes_nonneg (hdiff : DiffPTSSpec) :
    (∀ h pts90k, (∀ unixMs, (clock h).ptsToUnixMs pts90k = some unixMs → 0 ≤ unixMs) ↔
      ¬ (clock h).BeforeEpoch pts90k) ∧
    (∀ time unixMs, jstTimeToUnixMs time = some unixMs → 0 ≤ unixMs) ∧
    ∀ targetSid options (makeDecoderFactory : Profile → CaptionDecoderFactory δ) inputs,
      (∀ before packet after pts90k, inputs = before ++ .pes packet :: after →
        packet.sourcePID ∈ (Machine.run step (new targetSid options makeDecoderFactory) before).captionEmitters →
        parsePesPts packet = some pts90k →
        ¬ (Machine.run step (new targetSid options makeDecoderFactory) before).programClock.BeforeEpoch pts90k) →
      ∀ records ∈ Machine.answers step (new targetSid options makeDecoderFactory) inputs, ∀ record ∈ records,
        ∀ unixMs ∈ record.timesMs, 0 ≤ unixMs := by
  refine ⟨ptsToUnixMs_nonneg_iff hdiff, fun _ _ => jstTimeToUnixMs_nonneg, ?_⟩
  intro targetSid options makeDecoderFactory inputs hsteps records hrecords record hrecord unixMs hunixMs
  obtain ⟨before, input, after, rfl, rfl⟩ := (Machine.mem_answers_iff step).mp hrecords
  cases record with
  | diagnostic record => cases hunixMs
  | eit record =>
    obtain ⟨deserialized, hmem⟩ := eit_of_mem_step hrecord
    exact parseEit_startTime_nonneg hmem (Option.mem_toList.mp hunixMs)
  | caption record =>
    obtain ⟨packet, rfl, hemitter, htime⟩ := caption_of_mem_step hrecord
    have hconverted : record.timeMs = some unixMs := Option.mem_toList.mp hunixMs
    rw [htime, captionTime] at hconverted
    cases hpts : parsePesPts packet with
    | none =>
      rw [hpts] at hconverted
      cases hconverted
    | some pts90k =>
      have hnot := hsteps before packet after pts90k rfl hemitter hpts
      rw [hpts] at hconverted
      rw [programClock_run] at hnot hconverted
      exact (ptsToUnixMs_nonneg_iff hdiff _ pts90k).mpr hnot unixMs hconverted

end CaptionDumper

end

namespace CaptionDumper

/-- Service 1 with a PCR at one second and a TOT at the Unix epoch. -/
def epochAtOneSecond : List Input :=
  [.table (.ofPat ⟨true, (∅ : Std.ExtTreeMap UInt16 PID).insert 1 0x1F0⟩),
    .table (.ofPmt 0x1F0 ⟨true, 1, 0x100, oneCaptionStream⟩),
    .packet ⟨true, 0x100, true, 27000000, false⟩,
    .table (.ofTot ⟨true, 40587 * 86400000 + 32400000⟩)]

/-- A caption packet of the service with PTS `90000 * s`, for `s` 0 or 1. -/
def captionAt (ptsBytes : Bytes) : PESPacket :=
  ⟨0x130, true, [0, 0, 1, 0xBD, 0, 0, 0x80, 0x80, 5] ++ ptsBytes, [0x80]⟩

/-- A caption with PTS 0 is stamped one second before the epoch. -/
theorem recordTimes_negative :
    letI := TSDuck.documented
    letI := CaptionDecoder.always ⟨[65], [], 0⟩
    ((Machine.run step dumperOfService1 epochAtOneSecond).step (.pes (captionAt [0x21, 0, 1, 0, 1]))).2 =
      [.caption ⟨some (-1000), [65], [], none, none⟩] ∧
    ¬ ∀ records ∈ Machine.answers step dumperOfService1 (epochAtOneSecond ++ [.pes (captionAt [0x21, 0, 1, 0, 1])]),
      ∀ record ∈ records, ∀ unixMs ∈ record.timesMs, 0 ≤ unixMs := by
  refine ⟨by decide, ?_⟩
  decide

/-- A caption with PTS 90000 is stamped at the epoch, and no record of that run has a negative time. -/
theorem recordTimes_nonneg_atOneSecond :
    letI := TSDuck.documented
    letI := CaptionDecoder.always ⟨[65], [], 0⟩
    ((Machine.run step dumperOfService1 epochAtOneSecond).step (.pes (captionAt [0x21, 0, 5, 0xBF, 0x21]))).2 =
      [.caption ⟨some 0, [65], [], none, none⟩] ∧
    ∀ records ∈ Machine.answers step dumperOfService1 (epochAtOneSecond ++ [.pes (captionAt [0x21, 0, 5, 0xBF, 0x21])]),
      ∀ record ∈ records, ∀ unixMs ∈ record.timesMs, 0 ≤ unixMs := by
  let := TSDuck.documented
  let := CaptionDecoder.always ⟨[65], [], 0⟩
  refine ⟨by decide, ?_⟩
  refine (recordTimes_nonneg (δ := Unit) diffPTSSpec_documented).2.2 1 {} (fun _ _ _ => ()) _ ?_
  rintro before packet after pts90k hsplit - hpts
  obtain ⟨rfl, rfl⟩ : before = epochAtOneSecond ∧ packet = captionAt [0x21, 0, 5, 0xBF, 0x21] := by
    unfold epochAtOneSecond at hsplit ⊢
    rcases before with _ | ⟨_, _ | ⟨_, _ | ⟨_, _ | ⟨_, _ | ⟨_, before⟩⟩⟩⟩⟩ <;> simp_all
  have hvalue : parsePesPts (captionAt [0x21, 0, 5, 0xBF, 0x21]) = some 90000 := by decide
  have hreference : (Machine.run step dumperOfService1 epochAtOneSecond).programClock.referencePoint =
      some ⟨90000, 0⟩ := by decide
  rintro ⟨-, -, r, href, behind, hfar, hhalf, hback⟩
  cases hvalue.symm.trans hpts
  cases hreference.symm.trans href
  unfold PTS_DTS_SCALE at hback
  simp only at hfar hback
  omega

end CaptionDumper

end AribcapDump
