import AribcapDump.Caption.DecoderRuns
import AribcapDump.Clock.Recorded
import AribcapDump.Dumper.Steps

/-!
# The clock behind the times of captions

The dumper's clock runs through the calls that the inputs make on it, so the time
of a caption goes back to a PCR that was recorded on the PID that the PMTs of
the service announce.  A PMT whose PCR_PID is `PID_NULL` announces none: the
code keeps the PID of the PMTs before it.

* `programClock_run`: the clock after a run.
* `captionTime_source`: the PCR behind every time of a caption.
* `captionTime_after_null`: a PMT without PCR_PID leaves the clock running.
-/

namespace AribcapDump

/-! ## The calls on the clock -/

/-- The input is a PMT of the service that `HandlePmt` acts on. -/
def acceptedPmt? (targetSid : UInt16) : CaptionDumper.Input → Option PMT
  | .table table =>
    if table.tableId = TID_PMT ∧ table.pmt.isValid = true ∧ table.pmt.serviceId = targetSid then some table.pmt
    else none
  | _ => none

theorem acceptedPmt?_of_ne {targetSid : UInt16} {table : BinaryTable} (h : table.tableId ≠ TID_PMT) :
    acceptedPmt? targetSid (.table table) = none := by
  rw [acceptedPmt?, if_neg]
  exact fun haccepted => h haccepted.1

/-- The call that an input makes on the clock. -/
def clockCall? (targetSid : UInt16) : CaptionDumper.Input → Option ClockCall
  | .packet packet => if packet.hasValidSync = false then none else some (.recordPcr packet)
  | .table table =>
    if table.tableId = TID_TOT then some (.updateReferencePointFromTot table.tot)
    else (acceptedPmt? targetSid (.table table)).map fun pmt => .setPcrPid pmt.pcrPid
  | .pes _ => none

/-- The PCR_PID of the last accepted PMT that has one. -/
def announcedPcrPid (targetSid : UInt16) (past : List CaptionDumper.Input) : Option PID :=
  (((past.filterMap (acceptedPmt? targetSid)).map PMT.pcrPid).filter fun pid => pid ≠ PID_NULL).getLast?

/-- The calls that the inputs make, latest first. -/
def clockHistory (targetSid : UInt16) (past : List CaptionDumper.Input) : History :=
  (past.filterMap (clockCall? targetSid)).reverse

theorem clockHistory_concat (targetSid : UInt16) (past : List CaptionDumper.Input)
    (input : CaptionDumper.Input) :
    clockHistory targetSid (past ++ [input]) = (clockCall? targetSid input).toList ++ clockHistory targetSid past := by
  unfold clockHistory
  rw [List.filterMap_append, List.reverse_append, List.filterMap_cons, List.filterMap_nil]
  cases clockCall? targetSid input <;> rfl

theorem announcedPcrPid_concat (targetSid : UInt16) (past : List CaptionDumper.Input)
    (input : CaptionDumper.Input) : announcedPcrPid targetSid (past ++ [input]) =
      (acceptedPmt? targetSid input).elim (announcedPcrPid targetSid past) fun pmt =>
        if pmt.pcrPid = PID_NULL then announcedPcrPid targetSid past else some pmt.pcrPid := by
  unfold announcedPcrPid
  rw [List.filterMap_append, List.filterMap_cons, List.filterMap_nil, List.map_append,
    List.filter_append]
  cases acceptedPmt? targetSid input with
  | none => simp
  | some pmt => by_cases hnull : pmt.pcrPid = PID_NULL <;> simp [hnull]

/-- The tracked PID is the announced one. -/
theorem trackedPid_clockHistory (targetSid : UInt16) (past : List CaptionDumper.Input) :
    trackedPid (clockHistory targetSid past) = announcedPcrPid targetSid past := by
  induction past using List.reverseRecOn with
  | nil => rfl
  | append_singleton past input ih =>
    rw [clockHistory_concat, announcedPcrPid_concat, ← ih]
    cases input with
    | packet packet =>
      rw [clockCall?]
      split <;> rfl
    | pes packet => rfl
    | table table =>
      rw [clockCall?]
      split
      · next htot =>
        rw [acceptedPmt?_of_ne (htot ▸ by decide)]
        rfl
      · cases acceptedPmt? targetSid (.table table) <;> rfl

/-- A call on the clock was made by one of the inputs. -/
theorem clockHistory_split {targetSid : UInt16} {past : List CaptionDumper.Input}
    {later earlier : History}
    {packet : PacketView} (h : clockHistory targetSid past = later ++ .recordPcr packet :: earlier) :
    ∃ before after, past = before ++ .packet packet :: after ∧ packet.hasValidSync = true ∧
      clockHistory targetSid before = earlier := by
  have hcalls : past.filterMap (clockCall? targetSid) = earlier.reverse ++ .recordPcr packet :: later.reverse := by
    rw [← List.reverse_reverse (past.filterMap _), ← clockHistory, h]
    simp
  obtain ⟨first, rest, rfl, hfirst, hrest⟩ := List.filterMap_eq_append_iff.mp hcalls
  obtain ⟨silent, input, after, rfl, hsilent, hinput, -⟩ := List.filterMap_eq_cons_iff.mp hrest
  cases input with
  | packet packet' =>
    rw [clockCall?] at hinput
    split at hinput
    · cases hinput
    · next hsync =>
      cases hinput
      refine ⟨first ++ silent, after, by simp, by simpa using hsync, ?_⟩
      rw [clockHistory, List.filterMap_append, hfirst, List.filterMap_eq_nil_iff.mpr hsilent]
      simp
  | table table =>
    rw [clockCall?] at hinput
    split at hinput
    · cases hinput
    · obtain ⟨pmt, -, hcall⟩ := Option.map_eq_some_iff.mp hinput
      cases hcall
  | pes packet' => cases hinput

/-! ## The clock after a run -/

namespace CaptionDumper

variable {δ : Type}

theorem programClock_handlePat (d : CaptionDumper δ) (table : BinaryTable) :
    (d.handlePat table).1.programClock = d.programClock := by
  have hteardown : d.teardownTargetService.programClock = d.programClock := by
    rw [(onlyStreams_teardownTargetService d).programClock, dropPmtPid]
    split <;> rfl
  rcases handlePat_cases d table with hsame | hvanished | ⟨pmtPid, -, hadopted⟩
  · rw [hsame]
  · rw [hvanished, hteardown]
  · rw [hadopted]
    show d.beforeAdoption.programClock = d.programClock
    unfold beforeAdoption
    split
    · exact hteardown
    · rfl

theorem programClock_handlePmt (d : CaptionDumper δ) {table : BinaryTable}
    (hid : table.tableId = TID_PMT) : (d.handlePmt table).programClock =
      (acceptedPmt? d.targetSid (.table table)).elim d.programClock fun pmt => d.programClock.setPcrPid pmt.pcrPid := by
  rw [acceptedPmt?]
  rcases handlePmt_cases d table with ⟨hrefused, hsame⟩ | ⟨haccepted, hsynced⟩
  · rw [hsame, if_neg fun h => hrefused h.2]
    rfl
  · rw [hsynced, if_pos ⟨hid, haccepted⟩]
    exact (onlyStreams_syncCaptionStreams _ _ _).programClock

section
variable [TSDuck]

theorem programClock_handleEit (d : CaptionDumper δ) (table : BinaryTable) :
    (d.handleEit table).1.programClock = d.programClock := by
  unfold handleEit
  split
  · rfl
  · simp only
    split <;> rfl

variable [CaptionDecoder δ]

theorem programClock_step (d : CaptionDumper δ) (input : Input) :
    (d.step input).1.programClock =
      (clockCall? d.targetSid input).elim d.programClock fun call => (d.programClock.step call).1 := by
  cases input with
  | packet packet =>
    rw [step, clockCall?]
    split <;> rfl
  | pes packet =>
    rw [step, handlePESPacket]
    split <;> rfl
  | table table =>
    rw [step, handleTable, clockCall?]
    split
    · next hpat =>
      have htot : table.tableId ≠ TID_TOT := hpat ▸ by decide
      have hpmt : table.tableId ≠ TID_PMT := hpat ▸ by decide
      rw [programClock_handlePat, if_neg htot, acceptedPmt?_of_ne hpmt]
      rfl
    · split
      · next hpmt =>
        have htot : table.tableId ≠ TID_TOT := hpmt ▸ by decide
        rw [if_neg htot]
        refine (programClock_handlePmt d hpmt).trans ?_
        cases acceptedPmt? d.targetSid (.table table) <;> rfl
      · next hpmt =>
        split
        · rfl
        · rw [acceptedPmt?_of_ne hpmt]
          split
          · rfl
          · split
            · exact programClock_handleEit d table
            · rfl

/-- **The clock of the dumper** is the clock after the calls the inputs make. -/
theorem programClock_run (targetSid : UInt16) (options : CaptionDumperOptions)
    (makeDecoderFactory : Profile → CaptionDecoderFactory δ) (past : List Input) :
    (Machine.run step (new targetSid options makeDecoderFactory) past).programClock =
      clock (clockHistory targetSid past) := by
  rw [clock, clockHistory, List.reverse_reverse]
  refine Machine.run_part (P := fun d : CaptionDumper δ => d.targetSid = targetSid) step
    (fun d input h => (service_step d input).1.trans h) (fun d input h => ?_) rfl past
  rw [programClock_step, h]

end

/-! ## The times of captions -/

section
variable [TSDuck] [CaptionDecoder δ]

/-- A caption record comes from a PES packet on the PID of an emitter, and bears its time. -/
theorem caption_of_mem_step {d : CaptionDumper δ} {input : Input} {record : CaptionRecord}
    (hmem : .caption record ∈ (d.step input).2) :
    ∃ packet, input = .pes packet ∧ packet.sourcePID ∈ d.captionEmitters ∧
      record.timeMs = captionTime d.programClock packet := by
  rcases mem_step_cases hmem with ⟨diagnostic, hdiagnostic⟩ | ⟨packet, emitter, rfl, hemitter, hcaption⟩ |
    ⟨table, -, eitRecord, -, heit⟩
  · cases hdiagnostic
  · exact ⟨packet, rfl, mem_captionEmitters.mpr ⟨emitter, hemitter⟩, emitter.timeMs_of_mem_handlePes hcaption⟩
  · cases heit

/-- **The PCR behind the time of a caption.**  It was recorded, in the run, on the PCR_PID that the last accepted PMT
with a PCR_PID announces, and that was announced when it was recorded. -/
theorem captionTime_source (targetSid : UInt16) (options : CaptionDumperOptions)
    (makeDecoderFactory : Profile → CaptionDecoderFactory δ) (past : List Input) (input : Input)
    (record : CaptionRecord) (unixMs : Int)
    (hmem : .caption record ∈ ((Machine.run step (new targetSid options makeDecoderFactory) past).step input).2)
    (htime : record.timeMs = some unixMs) :
    ∃ packet pts90k reference before pcrPacket after,
      input = .pes packet ∧ parsePesPts packet = some pts90k ∧ unixMs = reference.convert pts90k ∧
      (Machine.run step (new targetSid options makeDecoderFactory) past).programClock.referencePoint = some reference ∧
      past = before ++ .packet pcrPacket :: after ∧ pcrPacket.hasValidSync = true ∧ pcrPacket.hasPCR = true ∧
      reference.pcr90k = Int.tdiv pcrPacket.getPCR kPcrTicksPerPtsTick ∧
      (Machine.run step (new targetSid options makeDecoderFactory)
        (before ++ [.packet pcrPacket])).programClock.lastPcr90k = some reference.pcr90k ∧
      announcedPcrPid targetSid before = some pcrPacket.getPID ∧
      announcedPcrPid targetSid past = some pcrPacket.getPID := by
  obtain ⟨packet, rfl, -, hcaption⟩ := caption_of_mem_step hmem
  rw [htime, captionTime] at hcaption
  cases hpts : parsePesPts packet with
  | none =>
    rw [hpts] at hcaption
    cases hcaption
  | some pts90k =>
    rw [hpts, programClock_run] at hcaption
    simp only [ptsToUnixMs_clock] at hcaption
    split at hcaption
    · obtain ⟨reference, hkept, hconvert⟩ := Option.map_eq_some_iff.mp hcaption.symm
      obtain ⟨pid, later, pcrPacket, earlier, htracked, hsplit, hrecorded⟩ := keptReference_recorded hkept
      obtain ⟨before, after, rfl, hsync, rfl⟩ := clockHistory_split hsplit
      obtain rfl := hrecorded.onPid
      refine ⟨packet, pts90k, reference, before, pcrPacket, after, rfl, hpts, hconvert.symm, ?_, rfl, hsync,
        hrecorded.hasPCR, hrecorded.value, ?_, ?_, ?_⟩
      · rw [programClock_run, clock_eq]
        exact hkept
      · rw [programClock_run, clockHistory_concat, clockCall?, hsync, if_neg (by decide), clock_eq]
        exact hrecorded.accepted
      · rw [← trackedPid_clockHistory, hrecorded.tracked]
      · rw [← trackedPid_clockHistory, htracked]
    · cases hcaption

end

/-- Service 1 with its PCR on PID 0x100: a PCR of 0 and a TOT at the Unix epoch. -/
def anchoredAtEpoch : List Input :=
  [.table (.ofPat ⟨true, (∅ : Std.ExtTreeMap UInt16 PID).insert 1 0x1F0⟩),
    .table (.ofPmt 0x1F0 ⟨true, 1, 0x100, oneCaptionStream⟩),
    .packet ⟨true, 0x100, true, 0, false⟩,
    .table (.ofTot ⟨true, 40587 * 86400000 + 32400000⟩)]

/-- A caption packet of the service with PTS 90000. -/
def captionAtOneSecond : PESPacket :=
  ⟨0x130, true, [0, 0, 1, 0xBD, 0, 0, 0x80, 0x80, 5, 0x21, 0, 5, 0xBF, 0x21], [0x80]⟩

theorem captionTime_source_anchoredAtEpoch :
    letI := TSDuck.documented
    letI := CaptionDecoder.always ⟨[65], [], 0⟩
    ∃ packet pts90k reference before pcrPacket after,
      Input.pes captionAtOneSecond = .pes packet ∧ parsePesPts packet = some pts90k ∧
      (1000 : Int) = reference.convert pts90k ∧
      (Machine.run step dumperOfService1 anchoredAtEpoch).programClock.referencePoint = some reference ∧
      anchoredAtEpoch = before ++ .packet pcrPacket :: after ∧ pcrPacket.hasValidSync = true ∧
      pcrPacket.hasPCR = true ∧ reference.pcr90k = Int.tdiv pcrPacket.getPCR kPcrTicksPerPtsTick ∧
      (Machine.run step dumperOfService1 (before ++ [.packet pcrPacket])).programClock.lastPcr90k =
        some reference.pcr90k ∧
      announcedPcrPid 1 before = some pcrPacket.getPID ∧ announcedPcrPid 1 anchoredAtEpoch = some pcrPacket.getPID := by
  let := TSDuck.documented
  let := CaptionDecoder.always ⟨[65], [], 0⟩
  exact captionTime_source 1 {} (fun _ _ _ => ()) anchoredAtEpoch (.pes captionAtOneSecond)
    ⟨some 1000, [65], [], none, none⟩ 1000 (by decide) rfl

/-- The same, and then a PMT of the service without a PCR_PID. -/
def anchoredThenNull : List Input :=
  anchoredAtEpoch ++ [.table (.ofPmt 0x1F0 ⟨true, 1, PID_NULL, oneCaptionStream⟩)]

/-- **A PMT without PCR_PID** leaves the clock running: the last accepted PMT announces `PID_NULL`, nothing was
received on that PID, and a caption still bears a time. -/
theorem captionTime_after_null :
    letI := TSDuck.documented
    letI := CaptionDecoder.always ⟨[65], [], 0⟩
    ((anchoredThenNull.filterMap (acceptedPmt? 1)).map PMT.pcrPid).getLast? = some PID_NULL ∧
    ((Machine.run step dumperOfService1 anchoredThenNull).step (.pes captionAtOneSecond)).2 =
      [.caption ⟨some 1000, [65], [], none, none⟩] ∧
    ∀ packet, .packet packet ∈ anchoredThenNull → packet.getPID ≠ PID_NULL := by
  refine ⟨by decide, by decide, ?_⟩
  intro packet hpacket
  simp only [anchoredThenNull, anchoredAtEpoch, List.cons_append, List.nil_append, List.mem_cons,
    reduceCtorEq, Input.packet.injEq, List.not_mem_nil, or_false, false_or] at hpacket
  rw [hpacket]
  decide

end CaptionDumper

end AribcapDump
