import AribcapDump.Dumper.Streams

/-!
# What one input can do to the routing

The routing is what decides which tables and PES packets reach the dumper: the
two PID filters, the PMT PID and the PIDs with a caption emitter.  Only a PAT or
a PMT touches it.

* `step_cases`: a PAT, a PMT, or an input that leaves the routing alone.
* `handlePat_cases`: nothing, a teardown, or a new PMT PID.
* `handlePmt_cases`: nothing, or `SyncCaptionStreams`.
* `mem_step_cases`: where the records of an input come from.
-/

namespace AribcapDump.CaptionDumper

variable {δ : Type}

/-! ## Leaving the routing alone -/

/-- The routing of `d'` is that of `d`: its emitters may differ, but not their PIDs. -/
structure SameRouting (d d' : CaptionDumper δ) : Prop where
  targetSid : d'.targetSid = d.targetSid
  reservedSectionPids : d'.reservedSectionPids = d.reservedSectionPids
  sectionDemux : d'.sectionDemux = d.sectionDemux
  currentPmtPid : d'.currentPmtPid = d.currentPmtPid
  pesDemux : d'.pesDemux = d.pesDemux
  emitterPids : ∀ pid, pid ∈ d'.captionEmitters ↔ pid ∈ d.captionEmitters

theorem SameRouting.refl (d : CaptionDumper δ) : SameRouting d d :=
  ⟨rfl, rfl, rfl, rfl, rfl, fun _ => Iff.rfl⟩

section
variable [TSDuck]

theorem sameRouting_handleTot (d : CaptionDumper δ) (table : BinaryTable) :
    SameRouting d (d.handleTot table) :=
  ⟨rfl, rfl, rfl, rfl, rfl, fun _ => Iff.rfl⟩

theorem sameRouting_recordPcr (d : CaptionDumper δ) (packet : PacketView) :
    SameRouting d (d.recordPcr packet).1 :=
  ⟨rfl, rfl, rfl, rfl, rfl, fun _ => Iff.rfl⟩

theorem sameRouting_handleEit (d : CaptionDumper δ) (table : BinaryTable) :
    SameRouting d (d.handleEit table).1 := by
  unfold handleEit
  split
  · exact .refl d
  · simp only
    split
    · exact .refl d
    · exact ⟨rfl, rfl, rfl, rfl, rfl, fun _ => Iff.rfl⟩

theorem sameRouting_handlePESPacket [CaptionDecoder δ] (d : CaptionDumper δ) (packet : PESPacket) :
    SameRouting d (d.handlePESPacket packet).1 := by
  unfold handlePESPacket
  split
  · exact .refl d
  · next emitter hemitter =>
    refine ⟨rfl, rfl, rfl, rfl, rfl, fun pid => ?_⟩
    -- the emitter is put back where it was
    have hmem : packet.sourcePID ∈ d.captionEmitters := mem_captionEmitters.mpr ⟨emitter, hemitter⟩
    rw [Std.ExtTreeMap.mem_insert]
    constructor
    · rintro (heq | hpid)
      · rwa [← Std.LawfulEqCmp.compare_eq_iff_eq.mp heq]
      · exact hpid
    · exact Or.inr

end

/-! ## Teardown -/

/-- The first half of `TeardownTargetService`: the PMT PID is no longer demuxed. -/
def dropPmtPid (d : CaptionDumper δ) : CaptionDumper δ :=
  match d.currentPmtPid with
  | some pmtPid => { d with sectionDemux := d.sectionDemux.removePID pmtPid, currentPmtPid := none }
  | none => d

theorem teardownTargetService_eq (d : CaptionDumper δ) :
    d.teardownTargetService = d.dropPmtPid.captionEmitters.keys.foldl unregisterCaptionStream d.dropPmtPid := rfl

theorem currentPmtPid_dropPmtPid (d : CaptionDumper δ) : d.dropPmtPid.currentPmtPid = none := by
  unfold dropPmtPid
  split
  · rfl
  · next hnone => exact hnone

theorem onlyStreams_teardownTargetService (d : CaptionDumper δ) :
    OnlyStreams d.dropPmtPid d.teardownTargetService := by
  rw [teardownTargetService_eq]
  exact onlyStreams_foldl_unregister _ _

theorem currentPmtPid_teardownTargetService (d : CaptionDumper δ) :
    d.teardownTargetService.currentPmtPid = none := by
  rw [(onlyStreams_teardownTargetService d).currentPmtPid, currentPmtPid_dropPmtPid]

theorem captionEmitters_teardownTargetService (d : CaptionDumper δ) :
    d.teardownTargetService.captionEmitters = ∅ := by
  rw [teardownTargetService_eq]
  exact captionEmitters_foldl_unregister_keys _

theorem targetSid_teardownTargetService (d : CaptionDumper δ) :
    d.teardownTargetService.targetSid = d.targetSid := by
  rw [(onlyStreams_teardownTargetService d).targetSid, dropPmtPid]
  split <;> rfl

theorem reservedSectionPids_teardownTargetService (d : CaptionDumper δ) :
    d.teardownTargetService.reservedSectionPids = d.reservedSectionPids := by
  rw [(onlyStreams_teardownTargetService d).reservedSectionPids, dropPmtPid]
  split <;> rfl

/-! ## PATs and PMTs -/

/-- The last lines of `HandlePat`. -/
def adoptPmtPid (d : CaptionDumper δ) (pmtPid : PID) : CaptionDumper δ :=
  { d with currentPmtPid := some pmtPid, sectionDemux := d.sectionDemux.addPID pmtPid }

/-- The new PMT PID's predecessor goes first. -/
def beforeAdoption (d : CaptionDumper δ) : CaptionDumper δ :=
  if d.currentPmtPid.isSome then d.teardownTargetService else d

theorem currentPmtPid_beforeAdoption (d : CaptionDumper δ) : d.beforeAdoption.currentPmtPid = none := by
  unfold beforeAdoption
  split
  · exact currentPmtPid_teardownTargetService d
  · next hnone => exact Option.not_isSome_iff_eq_none.mp hnone

@[simp] theorem reservedSectionPids_beforeAdoption (d : CaptionDumper δ) :
    d.beforeAdoption.reservedSectionPids = d.reservedSectionPids := by
  unfold beforeAdoption
  split
  · exact reservedSectionPids_teardownTargetService d
  · rfl

@[simp] theorem targetSid_beforeAdoption (d : CaptionDumper δ) :
    d.beforeAdoption.targetSid = d.targetSid := by
  unfold beforeAdoption
  split
  · exact targetSid_teardownTargetService d
  · rfl

theorem handlePat_cases (d : CaptionDumper δ) (table : BinaryTable) :
    (d.handlePat table).1 = d ∨ (d.handlePat table).1 = d.teardownTargetService ∨
      ∃ pmtPid, pmtPid ∉ d.reservedSectionPids ∧ (d.handlePat table).1 = d.beforeAdoption.adoptPmtPid pmtPid := by
  unfold handlePat
  split
  · exact .inl rfl
  · split
    · exact .inr (.inl rfl)
    · next pmtPid _ =>
      split
      · exact .inl rfl
      · next hreserved =>
        split
        · exact .inl rfl
        · exact .inr (.inr ⟨pmtPid, hreserved, rfl⟩)

/-- The PMT PID of the service after a PAT: a listed PID that is not reserved, none where the service is not
listed. -/
def followPat (targetSid : UInt16) (current : Option PID) (pat : PAT) : Option PID :=
  if pat.isValid = false then current
  else
    match pat.pmts[targetSid]? with
    | none => none
    | some pmtPid => if pmtPid ∈ initialSectionPids then current else some pmtPid

theorem currentPmtPid_handlePat (d : CaptionDumper δ) (table : BinaryTable)
    (hreserved : d.reservedSectionPids = initialSectionPids) :
    (d.handlePat table).1.currentPmtPid = followPat d.targetSid d.currentPmtPid table.pat := by
  unfold handlePat followPat
  rw [hreserved]
  split
  · rfl
  · cases table.pat.pmts[d.targetSid]? with
    | none => exact currentPmtPid_teardownTargetService d
    | some pmtPid =>
      by_cases hcollides : pmtPid ∈ initialSectionPids
      · simp only [if_pos hcollides]
      · simp only [if_neg hcollides]
        split
        · next hsame => exact hsame
        · rfl

/-- A PMT that `HandlePmt` acts on. -/
def Accepted (d : CaptionDumper δ) (table : BinaryTable) : Prop :=
  table.pmt.isValid = true ∧ table.pmt.serviceId = d.targetSid

instance (d : CaptionDumper δ) (table : BinaryTable) : Decidable (d.Accepted table) :=
  inferInstanceAs (Decidable (_ ∧ _))

theorem handlePmt_cases (d : CaptionDumper δ) (table : BinaryTable) :
    (¬ d.Accepted table ∧ d.handlePmt table = d) ∨
      (d.Accepted table ∧ d.handlePmt table =
        { d with programClock := d.programClock.setPcrPid table.pmt.pcrPid }.syncCaptionStreams table.sourcePID
          table.pmt.streams) := by
  unfold handlePmt Accepted
  split
  · next hrefused =>
    left
    refine ⟨?_, rfl⟩
    rintro ⟨hvalid, hservice⟩
    rcases hrefused with hinvalid | hother
    · rw [hvalid] at hinvalid
      cases hinvalid
    · exact hother hservice
  · next haccepted =>
    rw [not_or, Bool.not_eq_false, not_not] at haccepted
    exact .inr ⟨haccepted, rfl⟩

section
variable [TSDuck] [CaptionDecoder δ]

/-- **An input is a PAT, is a PMT, or leaves the routing alone.** -/
theorem step_cases (d : CaptionDumper δ) (input : Input) :
    (∃ table, input = .table table ∧ table.tableId = TID_PAT ∧ d.step input = d.handlePat table) ∨
      (∃ table, input = .table table ∧ table.tableId = TID_PMT ∧ d.step input = (d.handlePmt table, [])) ∨
      ((∀ table, input = .table table → table.tableId ≠ TID_PAT ∧ table.tableId ≠ TID_PMT) ∧
        SameRouting d (d.step input).1) := by
  cases input with
  | packet packet =>
    refine .inr (.inr ⟨fun _ h => (by cases h), ?_⟩)
    rw [step]
    split
    · exact .refl d
    · exact sameRouting_recordPcr d packet
  | pes packet => exact .inr (.inr ⟨fun _ h => (by cases h), sameRouting_handlePESPacket d packet⟩)
  | table table =>
    by_cases hpat : table.tableId = TID_PAT
    · exact .inl ⟨table, rfl, hpat, by rw [step, handleTable, if_pos hpat]⟩
    · by_cases hpmt : table.tableId = TID_PMT
      · exact .inr (.inl ⟨table, rfl, hpmt, by rw [step, handleTable, if_neg hpat, if_pos hpmt]⟩)
      · refine .inr (.inr ⟨?_, ?_⟩)
        · rintro _ ⟨⟩
          exact ⟨hpat, hpmt⟩
        · rw [step, handleTable, if_neg hpat, if_neg hpmt]
          split
          · exact sameRouting_handleTot d table
          · split
            · exact .refl d
            · split
              · exact sameRouting_handleEit d table
              · exact .refl d

/-- No input changes the service or the reserved PIDs. -/
theorem service_step (d : CaptionDumper δ) (input : Input) :
    (d.step input).1.targetSid = d.targetSid ∧ (d.step input).1.reservedSectionPids = d.reservedSectionPids := by
  rcases step_cases d input with ⟨table, rfl, -, hpat⟩ | ⟨table, rfl, -, hpmt⟩ | ⟨-, hsame⟩
  · rw [hpat]
    rcases handlePat_cases d table with hsame | hvanished | ⟨pmtPid, -, hadopted⟩
    · rw [hsame]
      exact ⟨rfl, rfl⟩
    · rw [hvanished]
      exact ⟨targetSid_teardownTargetService d, reservedSectionPids_teardownTargetService d⟩
    · rw [hadopted]
      exact ⟨targetSid_beforeAdoption d, reservedSectionPids_beforeAdoption d⟩
  · rw [hpmt]
    rcases handlePmt_cases d table with ⟨-, hsame⟩ | ⟨-, hsynced⟩
    · rw [hsame]
      exact ⟨rfl, rfl⟩
    · rw [hsynced]
      have hframe := onlyStreams_syncCaptionStreams
        { d with programClock := d.programClock.setPcrPid table.pmt.pcrPid } table.sourcePID table.pmt.streams
      exact ⟨hframe.targetSid, hframe.reservedSectionPids⟩
  · exact ⟨hsame.targetSid, hsame.reservedSectionPids⟩

theorem service_run (d : CaptionDumper δ) (inputs : List Input) :
    (Machine.run step d inputs).targetSid = d.targetSid ∧
      (Machine.run step d inputs).reservedSectionPids = d.reservedSectionPids := by
  induction inputs generalizing d with
  | nil => exact ⟨rfl, rfl⟩
  | cons input inputs ih =>
    obtain ⟨hsid, hreserved⟩ := service_step d input
    rw [Machine.run_cons, (ih _).1, (ih _).2]
    exact ⟨hsid, hreserved⟩

end

/-! ## The records of an input -/

/-- A PAT gives diagnostics. -/
theorem diagnostic_of_mem_handlePat {d : CaptionDumper δ} {table : BinaryTable} {record : OutputRecord}
    (hmem : record ∈ (d.handlePat table).2) : ∃ diagnostic, record = .diagnostic diagnostic := by
  unfold handlePat at hmem
  split at hmem
  · cases hmem
  · split at hmem
    · cases hmem
    · split at hmem
      · exact ⟨_, List.mem_singleton.mp hmem⟩
      · split at hmem <;> cases hmem

section
variable [TSDuck]

/-- A packet gives diagnostics. -/
theorem diagnostic_of_mem_recordPcr {d : CaptionDumper δ} {packet : PacketView} {record : OutputRecord}
    (hmem : record ∈ (d.recordPcr packet).2) : ∃ diagnostic, record = .diagnostic diagnostic := by
  simp only [recordPcr] at hmem
  split at hmem
  · cases hmem
  · exact ⟨_, List.mem_singleton.mp hmem⟩

/-- An EIT gives records of its events. -/
theorem eit_of_mem_handleEit {d : CaptionDumper δ} {table : BinaryTable} {record : OutputRecord}
    (hmem : record ∈ (d.handleEit table).2) :
    ∃ eitRecord ∈ parseEit (deserializeEit table), record = .eit eitRecord := by
  unfold handleEit at hmem
  split at hmem
  · cases hmem
  · simp only [EitRecordEmitter.handleEit] at hmem
    split at hmem
    · cases hmem
    · obtain ⟨eitRecord, hselected, rfl⟩ := List.mem_map.mp hmem
      split at hselected
      · cases hselected
      · exact ⟨eitRecord, List.mem_of_mem_filter hselected, rfl⟩

variable [CaptionDecoder δ]

/-- **A record is a diagnostic, an answer of an emitter to a PES packet of its PID, or a record of an EIT.** -/
theorem mem_step_cases {d : CaptionDumper δ} {input : Input} {record : OutputRecord}
    (hmem : record ∈ (d.step input).2) :
    (∃ diagnostic, record = .diagnostic diagnostic) ∨
      (∃ packet emitter, input = .pes packet ∧ d.captionEmitters[packet.sourcePID]? = some emitter ∧
        record ∈ emitted (emitter.handlePes d.programClock packet).2) ∨
      ∃ table, input = .table table ∧ ∃ eitRecord ∈ parseEit (deserializeEit table), record = .eit eitRecord := by
  cases input with
  | packet packet =>
    rw [step] at hmem
    split at hmem
    · cases hmem
    · exact .inl (diagnostic_of_mem_recordPcr hmem)
  | pes packet =>
    rw [step, handlePESPacket] at hmem
    split at hmem
    · cases hmem
    · next emitter hemitter => exact .inr (.inl ⟨packet, emitter, rfl, hemitter, hmem⟩)
  | table table =>
    rw [step, handleTable] at hmem
    split at hmem
    · exact .inl (diagnostic_of_mem_handlePat hmem)
    · split_ifs at hmem with hpmt htot htdt heit
      · cases hmem
      · cases hmem
      · cases hmem
      · exact .inr (.inr ⟨table, rfl, eit_of_mem_handleEit hmem⟩)
      · cases hmem

end

end AribcapDump.CaptionDumper
