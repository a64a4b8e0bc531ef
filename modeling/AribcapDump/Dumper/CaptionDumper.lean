import AribcapDump.Caption.CaptionClassifier
import AribcapDump.Eit.EitRecordEmitter
import Mathlib.Data.Finset.Option

/-!
# The caption dumper

`CaptionDumper` of core/caption_dumper: the tables of one service steer which
PIDs are demuxed and which caption streams have an emitter.

The two demuxers are TSDuck's.  A demuxer is known by the calls made to it; the
tables and PES packets it delivers are inputs.  The `while` loop of
`TeardownTargetService` takes the first key until the map is empty: it is a fold
over the keys, as are the loops of `SyncCaptionStreams`.
-/

namespace AribcapDump

/-! ## Demuxers -/

inductive DemuxCall
  | addPID (pid : PID)
  | removePID (pid : PID)
deriving DecidableEq

/-- A demuxer: the PIDs it was constructed with and the calls since. -/
structure Demux where
  initial : Finset PID
  calls : List DemuxCall := []

namespace Demux

def filtered (pids : Finset PID) : DemuxCall → Finset PID
  | .addPID pid => insert pid pids
  | .removePID pid => pids.erase pid

/-- The PIDs filtered: only `addPID` and `removePID` change them. -/
def pids (demux : Demux) : Finset PID := demux.calls.foldl filtered demux.initial

def addPID (demux : Demux) (pid : PID) : Demux := { demux with calls := demux.calls ++ [.addPID pid] }

def removePID (demux : Demux) (pid : PID) : Demux :=
  { demux with calls := demux.calls ++ [.removePID pid] }

def hasPID (demux : Demux) (pid : PID) : Bool := decide (pid ∈ demux.pids)

@[simp] theorem pids_addPID (demux : Demux) (pid : PID) :
    (demux.addPID pid).pids = insert pid demux.pids := by
  simp [pids, addPID, filtered]

@[simp] theorem pids_removePID (demux : Demux) (pid : PID) :
    (demux.removePID pid).pids = demux.pids.erase pid := by
  simp [pids, removePID, filtered]

end Demux

/-! ## The dumper -/

def initialSectionPids : Finset PID := {PID_PAT, PID_EIT, PID_ISDB_EIT_3, PID_TOT}

structure CaptionDumperOptions where
  emitEmptyCaptions : Bool := false
  eitOutput : EitOutputMode := .kPresent

structure CaptionDumper (δ : Type) where
  targetSid : UInt16
  options : CaptionDumperOptions
  reservedSectionPids : Finset PID
  sectionDemux : Demux
  currentPmtPid : Option PID
  pesDemux : Demux
  programClock : ProgramClock
  eitEmitter : EitRecordEmitter
  captionEmitters : Std.ExtTreeMap PID (CaptionRecordEmitter δ)
  /-- `MakeAribCaptionDecoderFactory`. -/
  makeDecoderFactory : Profile → CaptionDecoderFactory δ

namespace CaptionDumper

variable {δ : Type}

/-- The constructor. -/
def new (targetSid : UInt16) (options : CaptionDumperOptions)
    (makeDecoderFactory : Profile → CaptionDecoderFactory δ) : CaptionDumper δ where
  targetSid := targetSid
  options := options
  reservedSectionPids := initialSectionPids
  sectionDemux := { initial := initialSectionPids }
  currentPmtPid := none
  pesDemux := { initial := ∅ }
  programClock := {}
  eitEmitter := { outputMode := options.eitOutput }
  captionEmitters := ∅
  makeDecoderFactory := makeDecoderFactory

/-! ## Caption streams -/

/-- `try_emplace` leaves an emitter that is there. -/
def registerCaptionStream (d : CaptionDumper δ) (pid : PID) (profile : Profile) : CaptionDumper δ :=
  { d with
    captionEmitters := d.captionEmitters.insertIfNew pid
      (.new profile (d.makeDecoderFactory profile) d.options.emitEmptyCaptions)
    pesDemux := d.pesDemux.addPID pid }

def unregisterCaptionStream (d : CaptionDumper δ) (pid : PID) : CaptionDumper δ :=
  { d with pesDemux := d.pesDemux.removePID pid, captionEmitters := d.captionEmitters.erase pid }

/-- The body of the loop that fills `desired`; the profile is `emplace`d. -/
def desireStream (pmtPid : PID) (desired : Std.ExtTreeMap PID Profile) (esPid : PID) (stream : Stream) :
    Std.ExtTreeMap PID Profile :=
  match classifyCaptionStream pmtPid stream with
  | none => desired
  | some profile => desired.insertIfNew esPid profile

/-- `desired`: the caption streams of the PMT with their profiles. -/
def desiredStreams (pmtPid : PID) (streams : Std.ExtTreeMap PID Stream) : Std.ExtTreeMap PID Profile :=
  streams.foldl (desireStream pmtPid) ∅

/-- The body of the second loop: a stream that is new or changed its profile. -/
def syncStream (d : CaptionDumper δ) (pid : PID) (profile : Profile) : CaptionDumper δ :=
  match d.captionEmitters[pid]? with
  | none => d.registerCaptionStream pid profile
  | some current =>
    if current.profile ≠ profile then (d.unregisterCaptionStream pid).registerCaptionStream pid profile else d

def syncCaptionStreams (d : CaptionDumper δ) (pmtPid : PID) (streams : Std.ExtTreeMap PID Stream) :
    CaptionDumper δ :=
  let desired := desiredStreams pmtPid streams
  let d := d.captionEmitters.keys.foldl
    (fun d pid => if desired.contains pid then d else d.unregisterCaptionStream pid) d
  desired.foldl syncStream d

def teardownTargetService (d : CaptionDumper δ) : CaptionDumper δ :=
  let d :=
    match d.currentPmtPid with
    | some pmtPid => { d with sectionDemux := d.sectionDemux.removePID pmtPid, currentPmtPid := none }
    | none => d
  d.captionEmitters.keys.foldl unregisterCaptionStream d

/-! ## Tables -/

def handlePat (d : CaptionDumper δ) (table : BinaryTable) : CaptionDumper δ × List OutputRecord :=
  if table.pat.isValid = false then (d, [])
  else
    match table.pat.pmts[d.targetSid]? with
    | none => (d.teardownTargetService, [])
    | some pmtPid =>
      if pmtPid ∈ d.reservedSectionPids then (d, [.diagnostic (.reservedPmtPidCollision ⟨pmtPid⟩)])
      else if d.currentPmtPid = some pmtPid then (d, [])
      else
        let d := if d.currentPmtPid.isSome then d.teardownTargetService else d
        ({ d with currentPmtPid := some pmtPid, sectionDemux := d.sectionDemux.addPID pmtPid }, [])

section
variable [TSDuck]

def handlePmt (d : CaptionDumper δ) (table : BinaryTable) : CaptionDumper δ :=
  if table.pmt.isValid = false ∨ table.pmt.serviceId ≠ d.targetSid then d
  else
    { d with programClock := d.programClock.setPcrPid table.pmt.pcrPid }.syncCaptionStreams table.sourcePID
      table.pmt.streams

def handleTot (d : CaptionDumper δ) (table : BinaryTable) : CaptionDumper δ :=
  { d with programClock := d.programClock.updateReferencePointFromTot table.tot }

def handleEit (d : CaptionDumper δ) (table : BinaryTable) : CaptionDumper δ × List OutputRecord :=
  if table.isValid = false ∨ table.tableIdExtension ≠ d.targetSid then (d, [])
  else
    let deserialized := deserializeEit table
    if deserialized.eit.isValid = false then (d, [])
    else
      let handled := d.eitEmitter.handleEit deserialized
      ({ d with eitEmitter := handled.1 }, handled.2.map .eit)

/-- A TDT shares its PID with the TOT and is not processed. -/
def handleTable (d : CaptionDumper δ) (table : BinaryTable) : CaptionDumper δ × List OutputRecord :=
  if table.tableId = TID_PAT then d.handlePat table
  else if table.tableId = TID_PMT then (d.handlePmt table, [])
  else if table.tableId = TID_TOT then (d.handleTot table, [])
  else if table.tableId = TID_TDT then (d, [])
  else if table.tableId = TID_EIT_PF_ACT then d.handleEit table
  else (d, [])

/-! ## Packets -/

/-- The PCR part of `FeedPacket`, before the demuxers. -/
def recordPcr (d : CaptionDumper δ) (packet : PacketView) : CaptionDumper δ × List OutputRecord :=
  let recorded := d.programClock.recordPcr packet
  ({ d with programClock := recorded.1 },
    match recorded.2 with
    | none => []
    | some discontinuity => [.diagnostic (.pcrDiscontinuity discontinuity)])

variable [CaptionDecoder δ]

def handlePESPacket (d : CaptionDumper δ) (packet : PESPacket) : CaptionDumper δ × List OutputRecord :=
  match d.captionEmitters[packet.sourcePID]? with
  | none => (d, [])
  | some emitter =>
    let handled := emitter.handlePes d.programClock packet
    ({ d with captionEmitters := d.captionEmitters.insert packet.sourcePID handled.1 }, emitted handled.2)

/-! ## Runs -/

/-- What drives the dumper: a packet reaching the clock, a table or a PES packet delivered by a demuxer (in
`FeedPacket` or in `Flush`). -/
inductive Input
  | packet (packet : PacketView)
  | table (table : BinaryTable)
  | pes (packet : PESPacket)

/-- The dumper as a machine; a packet without valid sync is skipped. -/
def step (d : CaptionDumper δ) : Input → CaptionDumper δ × List OutputRecord
  | .packet packet => if packet.hasValidSync = false then (d, []) else d.recordPcr packet
  | .table table => d.handleTable table
  | .pes packet => d.handlePESPacket packet

/-- Handling inputs one after the other, with the records of all. -/
def handleAll (d : CaptionDumper δ) (inputs : List Input) : CaptionDumper δ × List OutputRecord :=
  (Machine.run step d inputs, (Machine.answers step d inputs).flatten)

/-- `FeedPacket`, where the section demuxer delivers `tables` and the PES demuxer `pes`. -/
def feedPacket (d : CaptionDumper δ) (packet : PacketView) (tables : List BinaryTable)
    (pes : List PESPacket) : CaptionDumper δ × List OutputRecord :=
  if packet.hasValidSync = false then (d, [])
  else
    let recorded := d.recordPcr packet
    let sections := recorded.1.handleAll (tables.map .table)
    if sections.1.pesDemux.hasPID packet.getPID then
      let captions := sections.1.handleAll (pes.map .pes)
      (captions.1, recorded.2 ++ sections.2 ++ captions.2)
    else (sections.1, recorded.2 ++ sections.2)

theorem handleAll_append (d : CaptionDumper δ) (is js : List Input) :
    d.handleAll (is ++ js) =
      (((d.handleAll is).1.handleAll js).1, (d.handleAll is).2 ++ ((d.handleAll is).1.handleAll js).2) := by
  simp only [handleAll, Machine.run_append, Machine.answers_append, List.flatten_append]

/-- What `FeedPacket` delivers to the dumper: the packet, its tables and, if its PID is demuxed then, its PES
packets. -/
def deliveries (d : CaptionDumper δ) (packet : PacketView) (tables : List BinaryTable) (pes : List PESPacket) :
    List Input :=
  if packet.hasValidSync = false then []
  else
    let before := .packet packet :: tables.map .table
    before ++ if (d.handleAll before).1.pesDemux.hasPID packet.getPID then pes.map .pes else []

/-- **A call of `FeedPacket` is a run** over what it delivers. -/
theorem feedPacket_eq (d : CaptionDumper δ) (packet : PacketView) (tables : List BinaryTable)
    (pes : List PESPacket) : d.feedPacket packet tables pes = d.handleAll (d.deliveries packet tables pes) := by
  unfold feedPacket deliveries
  split
  · rfl
  · next hsync =>
    have hbefore : d.handleAll (.packet packet :: tables.map .table) =
        (((d.recordPcr packet).1.handleAll (tables.map .table)).1,
          (d.recordPcr packet).2 ++ ((d.recordPcr packet).1.handleAll (tables.map .table)).2) := by
      simp only [handleAll, Machine.run_cons, Machine.answers_cons, List.flatten_cons, step, if_neg hsync]
    simp only [handleAll_append, hbefore]
    split
    · rw [List.append_assoc]
    · simp [handleAll]

end

/-! ## A service with one caption stream -/

/-- The streams of a service with one caption stream, on PID 0x130. -/
def oneCaptionStream : Std.ExtTreeMap PID Stream :=
  (∅ : Std.ExtTreeMap PID Stream).insert 0x130 ⟨ST_PES_PRIV, some kComponentTagDefaultCaption, none⟩

/-- The dumper of service 1. -/
def dumperOfService1 : CaptionDumper Unit := new 1 {} fun _ _ _ => ()

end CaptionDumper

end AribcapDump
