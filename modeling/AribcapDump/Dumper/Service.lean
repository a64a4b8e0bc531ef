import AribcapDump.Dumper.EitOutput
import AribcapDump.Dumper.Lockstep

/-!
# What the dumper is for

A service, with no tables, no demuxers and no maps: a PAT lists its PMT PID or
does not, a PMT announces its PCR PID and which of its streams are captions, and
each caption stream has an emitter of its own.

    dumper after the inputs        =  service after what they say of it
    records of the dumper          =  records of the service                  (service_refines)

`view` is what an input says of the service; tables that are invalid, of another
service or of another kind say nothing.
-/

namespace AribcapDump

/-! ## The service -/

/-- What a service is told. -/
inductive ServiceInput
  | pcr (packet : PacketView)
  | tot (tot : TOT)
  /-- A PAT: the PMT PID it lists for the service, if any. -/
  | listed (pmtPid : Option PID)
  /-- A PMT of the service: its PCR PID, and the profiles of its caption streams. -/
  | announced (pcrPid : PID) (profile : PID → Option Profile)
  | eit (deserialized : DeserializedEit)
  | pes (packet : PESPacket)

structure Service (δ : Type) where
  pmtPid : Option PID := none
  clock : ProgramClock := {}
  eitEmitter : EitRecordEmitter := {}
  emitter : PID → Option (CaptionRecordEmitter δ) := fun _ => none

namespace Service

variable {δ : Type} (fresh : Profile → CaptionRecordEmitter δ)

/-- The service before the first input. -/
def initial (eitOutput : EitOutputMode) : Service δ := { eitEmitter := { outputMode := eitOutput } }

/-- The emitter of a stream of profile `profile`: the one that was there, if it has the profile. -/
def follow (current : Option (CaptionRecordEmitter δ)) (profile : Profile) : CaptionRecordEmitter δ :=
  match current with
  | some current => if current.profile = profile then current else fresh profile
  | none => fresh profile

/-- The service's PMT PID is the listed one; a new one, or none, ends its caption streams. -/
def list (s : Service δ) : Option PID → Service δ × List OutputRecord
  | none => ({ s with pmtPid := none, emitter := fun _ => none }, [])
  | some pmtPid =>
    if pmtPid ∈ initialSectionPids then (s, [.diagnostic (.reservedPmtPidCollision ⟨pmtPid⟩)])
    else if s.pmtPid = some pmtPid then (s, [])
    else
      ({ s with
          pmtPid := some pmtPid
          emitter := if s.pmtPid.isSome then fun _ => none else s.emitter }, [])

@[simp] theorem list_clock (s : Service δ) (pmtPid : Option PID) : (s.list pmtPid).1.clock = s.clock := by
  unfold list
  split
  · rfl
  · split_ifs <;> rfl

@[simp] theorem list_eitEmitter (s : Service δ) (pmtPid : Option PID) :
    (s.list pmtPid).1.eitEmitter = s.eitEmitter := by
  unfold list
  split
  · rfl
  · split_ifs <;> rfl

/-- A collision is reported whatever the service was. -/
theorem list_records (s : Service δ) (pmtPid : Option PID) :
    (s.list pmtPid).2 = (pmtPid.filter (· ∈ initialSectionPids)).toList.map fun pid =>
      .diagnostic (.reservedPmtPidCollision ⟨pid⟩) := by
  cases pmtPid with
  | none => rfl
  | some pid =>
    by_cases hreserved : pid ∈ initialSectionPids
    · simp [list, Option.filter, hreserved]
    · by_cases hcurrent : s.pmtPid = some pid <;> simp [list, Option.filter, hreserved, hcurrent]

def announce (s : Service δ) (pcrPid : PID) (profile : PID → Option Profile) : Service δ :=
  { s with
    clock := s.clock.setPcrPid pcrPid
    emitter := fun pid => (profile pid).map (follow fresh (s.emitter pid)) }

variable [TSDuck]

def recordPcr (s : Service δ) (packet : PacketView) : Service δ × List OutputRecord :=
  ({ s with clock := (s.clock.recordPcr packet).1 },
    (s.clock.recordPcr packet).2.toList.map fun discontinuity => .diagnostic (.pcrDiscontinuity discontinuity))

def handleEit (s : Service δ) (deserialized : DeserializedEit) : Service δ × List OutputRecord :=
  ({ s with eitEmitter := (s.eitEmitter.handleEit deserialized).1 },
    (s.eitEmitter.handleEit deserialized).2.map .eit)

variable [CaptionDecoder δ]

def handlePes (s : Service δ) (packet : PESPacket) : Service δ × List OutputRecord :=
  match s.emitter packet.sourcePID with
  | none => (s, [])
  | some emitter =>
    ({ s with
        emitter := fun pid =>
          if pid = packet.sourcePID then some (emitter.handlePes s.clock packet).1 else s.emitter pid },
      emitted (emitter.handlePes s.clock packet).2)

@[simp] theorem handlePes_pmtPid (s : Service δ) (packet : PESPacket) : (s.handlePes packet).1.pmtPid = s.pmtPid := by
  unfold handlePes
  split <;> rfl

@[simp] theorem handlePes_clock (s : Service δ) (packet : PESPacket) : (s.handlePes packet).1.clock = s.clock := by
  unfold handlePes
  split <;> rfl

@[simp] theorem handlePes_eitEmitter (s : Service δ) (packet : PESPacket) :
    (s.handlePes packet).1.eitEmitter = s.eitEmitter := by
  unfold handlePes
  split <;> rfl

def step (s : Service δ) : ServiceInput → Service δ × List OutputRecord
  | .pcr packet => s.recordPcr packet
  | .tot tot => ({ s with clock := s.clock.updateReferencePointFromTot tot }, [])
  | .listed pmtPid => s.list pmtPid
  | .announced pcrPid profile => (s.announce fresh pcrPid profile, [])
  | .eit deserialized => s.handleEit deserialized
  | .pes packet => s.handlePes packet

end Service

/-! ## What an input says of the service -/

/-- What a table says of the service. -/
def tableView (targetSid : UInt16) (table : BinaryTable) : Option ServiceInput :=
  if table.tableId = TID_PAT then
    if table.pat.isValid then some (.listed table.pat.pmts[targetSid]?) else none
  else if table.tableId = TID_PMT then
    if table.pmt.isValid = true ∧ table.pmt.serviceId = targetSid then
      some (.announced table.pmt.pcrPid fun pid =>
        table.pmt.streams[pid]?.bind (classifyCaptionStream table.sourcePID))
    else none
  else if table.tableId = TID_TOT then some (.tot table.tot)
  else if table.tableId = TID_EIT_PF_ACT then
    if isEitOf targetSid table then some (.eit (deserializeEit table)) else none
  else none

def view (targetSid : UInt16) : CaptionDumper.Input → Option ServiceInput
  | .packet packet => if packet.hasValidSync then some (.pcr packet) else none
  | .table table => tableView targetSid table
  | .pes packet => some (.pes packet)

/-! ## The dumper as a service -/

namespace CaptionDumper

variable {δ : Type}

/-- The service the dumper keeps track of. -/
def abs (d : CaptionDumper δ) : Service δ where
  pmtPid := d.currentPmtPid
  clock := d.programClock
  eitEmitter := d.eitEmitter
  emitter := fun pid => d.captionEmitters[pid]?

/-- What no input changes. -/
structure Config (targetSid : UInt16) (fresh : Profile → CaptionRecordEmitter δ) (d : CaptionDumper δ) : Prop where
  targetSid : d.targetSid = targetSid
  reserved : d.reservedSectionPids = initialSectionPids
  fresh : d.freshEmitter = fresh

variable {targetSid : UInt16} {fresh : Profile → CaptionRecordEmitter δ} {d d' : CaptionDumper δ}

theorem Config.of_onlyStreams (h : Config targetSid fresh d) (hframe : OnlyStreams d d') :
    Config targetSid fresh d' := by
  refine ⟨hframe.targetSid.trans h.targetSid, hframe.reservedSectionPids.trans h.reserved, ?_⟩
  rw [← h.fresh]
  funext profile
  unfold freshEmitter
  rw [hframe.options, hframe.makeDecoderFactory]

theorem Config.dropPmtPid (h : Config targetSid fresh d) : Config targetSid fresh d.dropPmtPid := by
  unfold CaptionDumper.dropPmtPid
  split
  · exact ⟨h.targetSid, h.reserved, h.fresh⟩
  · exact h

theorem Config.teardown (h : Config targetSid fresh d) : Config targetSid fresh d.teardownTargetService :=
  h.dropPmtPid.of_onlyStreams (onlyStreams_teardownTargetService d)

theorem abs_teardownTargetService (d : CaptionDumper δ) :
    d.teardownTargetService.abs = { d.abs with pmtPid := none, emitter := fun _ => none } := by
  have hframe := onlyStreams_teardownTargetService d
  have hclock : d.teardownTargetService.programClock = d.programClock := by
    rw [hframe.programClock, CaptionDumper.dropPmtPid]
    split <;> rfl
  have heit : d.teardownTargetService.eitEmitter = d.eitEmitter := by
    rw [hframe.eitEmitter, CaptionDumper.dropPmtPid]
    split <;> rfl
  simp only [abs, currentPmtPid_teardownTargetService, captionEmitters_teardownTargetService, hclock, heit,
    Std.ExtTreeMap.getElem?_empty]

/-! ## One input -/

/-- What the dumper must do with an input that says `told` of the service. -/
structure Follows [TSDuck] [CaptionDecoder δ] (targetSid : UInt16) (fresh : Profile → CaptionRecordEmitter δ)
    (d : CaptionDumper δ) (told : Option ServiceInput) (result : CaptionDumper δ × List OutputRecord) : Prop where
  config : Config targetSid fresh result.1
  state : result.1.abs = told.elim d.abs fun input => (d.abs.step fresh input).1
  records : result.2 = told.elim [] fun input => (d.abs.step fresh input).2

variable [TSDuck] [CaptionDecoder δ]

theorem Follows.nothing (h : Config targetSid fresh d) : Follows targetSid fresh d none (d, []) :=
  ⟨h, rfl, rfl⟩

/-- A new PMT PID: the caption streams of the one before it end with it. -/
theorem follows_adoption (h : Config targetSid fresh d) {pmtPid : PID} (hfree : pmtPid ∉ initialSectionPids)
    (hnew : d.currentPmtPid ≠ some pmtPid) :
    Follows targetSid fresh d (some (.listed (some pmtPid))) (d.beforeAdoption.adoptPmtPid pmtPid, []) := by
  have habs : d.abs.pmtPid ≠ some pmtPid := hnew
  have hlist : d.abs.step fresh (.listed (some pmtPid)) =
      ({ d.abs with
          pmtPid := some pmtPid
          emitter := if d.abs.pmtPid.isSome then fun _ => none else d.abs.emitter }, []) := by
    rw [Service.step, Service.list, if_neg hfree, if_neg habs]
  have hstate : d.beforeAdoption.abs =
      { d.abs with pmtPid := none, emitter := if d.abs.pmtPid.isSome then fun _ => none else d.abs.emitter } := by
    unfold beforeAdoption
    show CaptionDumper.abs (if d.abs.pmtPid.isSome then _ else _) = _
    cases hcurrent : d.abs.pmtPid with
    | none =>
      show d.abs = { d.abs with pmtPid := none }
      rw [← hcurrent]
    | some current => exact abs_teardownTargetService d
  have hconfig : Config targetSid fresh d.beforeAdoption := by
    unfold beforeAdoption
    split
    · exact h.teardown
    · exact h
  refine ⟨⟨hconfig.targetSid, hconfig.reserved, hconfig.fresh⟩, ?_, ?_⟩
  · rw [Option.elim_some, hlist]
    show { d.beforeAdoption.abs with pmtPid := some pmtPid } = _
    rw [hstate]
  · rw [Option.elim_some, hlist]

theorem follows_handlePat (h : Config targetSid fresh d) (table : BinaryTable) (hid : table.tableId = TID_PAT) :
    Follows targetSid fresh d (tableView targetSid table) (d.handlePat table) := by
  rw [tableView, if_pos hid]
  unfold handlePat
  cases hvalid : table.pat.isValid with
  | false => exact .nothing h
  | true =>
    rw [h.targetSid, h.reserved]
    simp only [if_true, Bool.true_eq_false, if_false]
    cases hlisted : table.pat.pmts[targetSid]? with
    | none => exact ⟨h.teardown, abs_teardownTargetService d, rfl⟩
    | some pmtPid =>
      by_cases hcollides : pmtPid ∈ initialSectionPids
      · simp only [if_pos hcollides]
        refine ⟨h, ?_, ?_⟩ <;> simp [Service.step, Service.list, hcollides]
      · simp only [if_neg hcollides]
        split
        · next hsame =>
          have habs : d.abs.pmtPid = some pmtPid := hsame
          refine ⟨h, ?_, ?_⟩ <;> simp [Service.step, Service.list, hcollides, habs]
        · next hnew => exact follows_adoption h hcollides hnew

theorem follows_handlePmt (h : Config targetSid fresh d) (table : BinaryTable) (hid : table.tableId = TID_PMT) :
    Follows targetSid fresh d (tableView targetSid table) (d.handlePmt table, []) := by
  have hpat : table.tableId ≠ TID_PAT := hid ▸ by decide
  rw [tableView, if_neg hpat, if_pos hid]
  rcases handlePmt_cases d table with ⟨hrefused, hsame⟩ | ⟨haccepted, hsynced⟩
  · unfold Accepted at hrefused
    rw [h.targetSid] at hrefused
    rw [hsame, if_neg hrefused]
    exact .nothing h
  · unfold Accepted at haccepted
    rw [h.targetSid] at haccepted
    rw [hsynced, if_pos haccepted]
    have hclock : Config targetSid fresh { d with programClock := d.programClock.setPcrPid table.pmt.pcrPid } :=
      ⟨h.targetSid, h.reserved, h.fresh⟩
    have hframe := onlyStreams_syncCaptionStreams
      { d with programClock := d.programClock.setPcrPid table.pmt.pcrPid } table.sourcePID table.pmt.streams
    refine ⟨hclock.of_onlyStreams hframe, ?_, rfl⟩
    have hfollow : ∀ current : Option (CaptionRecordEmitter δ),
        reconciled { d with programClock := d.programClock.setPcrPid table.pmt.pcrPid } current =
          Service.follow fresh current := by
      intro current
      funext profile
      rw [← h.fresh]
      rfl
    simp only [abs, Option.elim_some, Service.step, Service.announce, hframe.currentPmtPid, hframe.programClock,
      hframe.eitEmitter, captionEmitters_syncCaptionStreams, hfollow]

theorem follows_handleEit (h : Config targetSid fresh d) (table : BinaryTable) (hid : table.tableId = TID_EIT_PF_ACT) :
    Follows targetSid fresh d (tableView targetSid table) (d.handleEit table) := by
  rw [tableView, if_neg (hid ▸ by decide), if_neg (hid ▸ by decide), if_neg (hid ▸ by decide), if_pos hid]
  obtain ⟨rfl, hreserved, hfresh⟩ := h
  rw [handleEit_eq]
  split
  · exact ⟨⟨rfl, hreserved, hfresh⟩, rfl, rfl⟩
  · exact .nothing ⟨rfl, hreserved, hfresh⟩

theorem follows_handleTable (h : Config targetSid fresh d) (table : BinaryTable) :
    Follows targetSid fresh d (tableView targetSid table) (d.handleTable table) := by
  unfold handleTable
  split
  · next hpat => exact follows_handlePat h table hpat
  · next hpat =>
    split
    · next hpmt => exact follows_handlePmt h table hpmt
    · next hpmt =>
      split
      · next htot =>
        rw [tableView, if_neg hpat, if_neg hpmt, if_pos htot]
        exact ⟨⟨h.targetSid, h.reserved, h.fresh⟩, rfl, rfl⟩
      · next htot =>
        split
        · next htdt =>
          rw [tableView, if_neg hpat, if_neg hpmt, if_neg htot, if_neg (htdt ▸ by decide)]
          exact .nothing h
        · split
          · next heit => exact follows_handleEit h table heit
          · next heit =>
            rw [tableView, if_neg hpat, if_neg hpmt, if_neg htot, if_neg heit]
            exact .nothing h

theorem follows_handlePESPacket (h : Config targetSid fresh d) (packet : PESPacket) :
    Follows targetSid fresh d (some (.pes packet)) (d.handlePESPacket packet) := by
  unfold handlePESPacket
  cases hemitter : d.captionEmitters[packet.sourcePID]? with
  | none =>
    have habs : d.abs.emitter packet.sourcePID = none := hemitter
    refine ⟨h, ?_, ?_⟩ <;> simp [Service.step, Service.handlePes, habs]
  | some emitter =>
    have habs : d.abs.emitter packet.sourcePID = some emitter := hemitter
    refine ⟨⟨h.targetSid, h.reserved, h.fresh⟩, ?_, ?_⟩
    · simp only [Option.elim_some, Service.step, Service.handlePes, habs]
      simp only [abs, Service.mk.injEq, true_and]
      funext pid
      simp only [Std.ExtTreeMap.getElem?_insert, Std.LawfulEqCmp.compare_eq_iff_eq]
      by_cases hpid : packet.sourcePID = pid
      · rw [if_pos hpid, if_pos hpid.symm]
      · rw [if_neg hpid, if_neg (Ne.symm hpid)]
    · simp only [Option.elim_some, Service.step, Service.handlePes, habs]
      rfl

/-- **One input**: the dumper follows what it says of the service. -/
theorem follows_step (h : Config targetSid fresh d) (input : Input) :
    Follows targetSid fresh d (view targetSid input) (d.step input) := by
  cases input with
  | table table => exact follows_handleTable h table
  | pes packet => exact follows_handlePESPacket h packet
  | packet packet =>
    rw [view, step]
    cases packet.hasValidSync with
    | false => exact .nothing h
    | true =>
      refine ⟨⟨h.targetSid, h.reserved, h.fresh⟩, rfl, ?_⟩
      show (d.recordPcr packet).2 = (d.programClock.recordPcr packet).2.toList.map _
      rw [recordPcr]
      cases (d.programClock.recordPcr packet).2 <;> simp

/-! ## Runs -/

theorem abs_run (h : Config targetSid fresh d) (inputs : List Input) :
    (Machine.run step d inputs).abs = Machine.run (Service.step fresh) d.abs (inputs.filterMap (view targetSid)) :=
  Machine.run_part (P := Config targetSid fresh) step (fun _ input h => (follows_step h input).config)
    (fun _ input h => (follows_step h input).state) h inputs

theorem records_run (h : Config targetSid fresh d) (inputs : List Input) :
    (Machine.answers step d inputs).flatten =
      (Machine.answers (Service.step fresh) d.abs (inputs.filterMap (view targetSid))).flatten := by
  rw [Machine.answers_part (P := Config targetSid fresh) step id (fun _ input h => (follows_step h input).config)
    (fun _ input h => (follows_step h input).state) (fun _ input h => (follows_step h input).records) h inputs,
    List.flatMap_id]

variable (targetSid : UInt16) (options : CaptionDumperOptions) (makeDecoderFactory : Profile → CaptionDecoderFactory δ)

omit [TSDuck] [CaptionDecoder δ] in
theorem config_new : Config targetSid (new targetSid options makeDecoderFactory).freshEmitter
    (new targetSid options makeDecoderFactory) :=
  ⟨rfl, rfl, rfl⟩

omit [TSDuck] [CaptionDecoder δ] in
theorem abs_new : (new targetSid options makeDecoderFactory).abs = .initial options.eitOutput := by
  simp [abs, new, Service.initial]

/-- **The dumper refines the service**: after every run its state is the service's, its records are the service's, and
the demuxers filter what the service needs. -/
theorem service_refines (inputs : List Input) :
    let d := new targetSid options makeDecoderFactory
    let told := inputs.filterMap (view targetSid)
    let s := Machine.run (Service.step d.freshEmitter) (.initial options.eitOutput) told
    (Machine.run step d inputs).abs = s ∧
    (Machine.answers step d inputs).flatten =
      (Machine.answers (Service.step d.freshEmitter) (.initial options.eitOutput) told).flatten ∧
    (Machine.run step d inputs).sectionDemux.pids = initialSectionPids ∪ s.pmtPid.toFinset ∧
    ∀ pid, pid ∈ (Machine.run step d inputs).pesDemux.pids ↔ (s.emitter pid).isSome = true := by
  intro d told s
  have hconfig : Config targetSid d.freshEmitter d := config_new targetSid options makeDecoderFactory
  have hnew : d.abs = .initial options.eitOutput := abs_new targetSid options makeDecoderFactory
  have hstate : (Machine.run step d inputs).abs = s := by rw [abs_run hconfig, hnew]
  have hlockstep : Lockstep (Machine.run step d inputs) := lockstep_reachable targetSid options makeDecoderFactory inputs
  refine ⟨hstate, ?_, ?_, fun pid => ?_⟩
  · rw [records_run hconfig, hnew]
  · rw [hlockstep.sectionPids, hlockstep.reserved, ← hstate]
    rfl
  · rw [hlockstep.pes, Std.ExtTreeMap.mem_iff_isSome_getElem?, ← hstate]
    rfl

end CaptionDumper

end AribcapDump
