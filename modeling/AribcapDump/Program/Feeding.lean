import AribcapDump.Dumper.Service
import AribcapDump.Framer.PacketFramer

/-!
# The dumper and its demuxers

`FeedPacket` and `Flush` of core/caption_dumper with the two demuxers: what a
demuxer delivers for a packet is TSDuck's, and depends on the packets it was
given and on the calls made to it.

* `feedPacket_eq`: a call of `FeedPacket` is a run over what it delivers.
* `transcript_eq_service`: the records of a run with demuxers are those of the service, told what the demuxers deliver.
-/

namespace AribcapDump

/-! ## TSDuck -/

/-- The accessors of a `ts::TSPacket`. -/
class PacketAccessors where
  view : TSPacket → PacketView

/-- A `ts::SectionDemux` and a `ts::PESDemux`; the PIDs filtered come with the call. -/
class Demuxers (α β : Type) where
  newSections : α
  newPes : β
  feedSections : α → Demux → TSPacket → α × List BinaryTable
  feedPes : β → Demux → TSPacket → β × List PESPacket
  flushUnboundedPes : β → Demux → β × List PESPacket

/-! ## Feeding -/

/-- A dumper with the states of its demuxers. -/
structure Feeding (α β δ : Type) where
  dumper : CaptionDumper δ
  sections : α
  pes : β

namespace Feeding

variable {α β δ : Type} [TSDuck] [CaptionDecoder δ] [PacketAccessors] [Demuxers α β]

open CaptionDumper (Input)

def new (targetSid : UInt16) (options : CaptionDumperOptions)
    (makeDecoderFactory : Profile → CaptionDecoderFactory δ) : Feeding α β δ where
  dumper := .new targetSid options makeDecoderFactory
  sections := Demuxers.newSections β
  pes := Demuxers.newPes α

/-- `FeedPacket`: the PES demuxer is given packets of registered caption PIDs only. -/
def feedPacket (f : Feeding α β δ) (packet : TSPacket) : Feeding α β δ × List OutputRecord :=
  let view := PacketAccessors.view packet
  if view.hasValidSync = false then (f, [])
  else
    let recorded := f.dumper.recordPcr view
    let sections := Demuxers.feedSections β f.sections recorded.1.sectionDemux packet
    let tables := recorded.1.handleAll (sections.2.map .table)
    if tables.1.pesDemux.hasPID view.getPID then
      let pes := Demuxers.feedPes α f.pes tables.1.pesDemux packet
      let captions := tables.1.handleAll (pes.2.map .pes)
      (⟨captions.1, sections.1, pes.1⟩, recorded.2 ++ tables.2 ++ captions.2)
    else (⟨tables.1, sections.1, f.pes⟩, recorded.2 ++ tables.2)

/-- `Flush`. -/
def flush (f : Feeding α β δ) : Feeding α β δ × List OutputRecord :=
  let flushed := Demuxers.flushUnboundedPes α f.pes f.dumper.pesDemux
  let captions := f.dumper.handleAll (flushed.2.map .pes)
  (⟨captions.1, f.sections, flushed.1⟩, captions.2)

/-- The packets one after the other, and then `Flush`: the records of all. -/
def transcript (f : Feeding α β δ) (packets : List TSPacket) : List OutputRecord :=
  (Machine.answers feedPacket f packets).flatten ++ (Machine.run feedPacket f packets).flush.2

/-! ## What is delivered -/

/-- The tables of a packet. -/
def tablesOf (f : Feeding α β δ) (packet : TSPacket) : List BinaryTable :=
  (Demuxers.feedSections β f.sections f.dumper.sectionDemux packet).2

/-- The dumper when the packet gets to the PES demuxer. -/
def afterTables (f : Feeding α β δ) (packet : TSPacket) : CaptionDumper δ :=
  (f.dumper.handleAll (.packet (PacketAccessors.view packet) :: (f.tablesOf packet).map .table)).1

/-- The PES packets of a packet, if it gets to the PES demuxer. -/
def pesOf (f : Feeding α β δ) (packet : TSPacket) : List PESPacket :=
  (Demuxers.feedPes α f.pes (f.afterTables packet).pesDemux packet).2

/-- What `FeedPacket` delivers to the dumper. -/
def deliveries (f : Feeding α β δ) (packet : TSPacket) : List Input :=
  f.dumper.deliveries (PacketAccessors.view packet) (f.tablesOf packet) (f.pesOf packet)

/-- **A call of `FeedPacket`** is a run of the dumper over what it delivers. -/
theorem feedPacket_eq (f : Feeding α β δ) (packet : TSPacket) :
    ((f.feedPacket packet).1.dumper, (f.feedPacket packet).2) = f.dumper.handleAll (f.deliveries packet) := by
  rw [deliveries, ← CaptionDumper.feedPacket_eq]
  unfold feedPacket CaptionDumper.feedPacket
  by_cases hsync : (PacketAccessors.view packet).hasValidSync = false
  · simp only [if_pos hsync]
  · have hafter : f.afterTables packet =
        ((f.dumper.recordPcr (PacketAccessors.view packet)).1.handleAll ((f.tablesOf packet).map .table)).1 := by
      unfold afterTables CaptionDumper.handleAll
      simp only [Machine.run_cons, CaptionDumper.step, if_neg hsync]
    have hsections : (f.dumper.recordPcr (PacketAccessors.view packet)).1.sectionDemux = f.dumper.sectionDemux := rfl
    simp only [if_neg hsync, hsections, pesOf, hafter, tablesOf]
    cases (((f.dumper.recordPcr (PacketAccessors.view packet)).1.handleAll
      ((Demuxers.feedSections β f.sections f.dumper.sectionDemux packet).2.map .table)).1.pesDemux.hasPID
        (PacketAccessors.view packet).getPID) <;> rfl

/-- What a run over packets delivers to the dumper, `Flush` included. -/
def allDeliveries (f : Feeding α β δ) : List TSPacket → List Input
  | [] => (Demuxers.flushUnboundedPes α f.pes f.dumper.pesDemux).2.map .pes
  | packet :: packets => f.deliveries packet ++ allDeliveries (f.feedPacket packet).1 packets

/-- The records of a run are those of the dumper for all that is delivered. -/
theorem transcript_eq (f : Feeding α β δ) (packets : List TSPacket) :
    f.transcript packets = (f.dumper.handleAll (f.allDeliveries packets)).2 := by
  induction packets generalizing f with
  | nil => rfl
  | cons packet packets ih =>
    have hfeed := f.feedPacket_eq packet
    rw [Prod.mk.injEq] at hfeed
    rw [allDeliveries, CaptionDumper.handleAll_append, ← hfeed.1, ← hfeed.2, ← ih, transcript, transcript,
      Machine.answers_cons, Machine.run_cons, List.flatten_cons, List.append_assoc]

/-- The records of a run are those of the service, told what is delivered. -/
theorem transcript_eq_service (targetSid : UInt16) (options : CaptionDumperOptions)
    (makeDecoderFactory : Profile → CaptionDecoderFactory δ) (packets : List TSPacket) :
    let f : Feeding α β δ := new targetSid options makeDecoderFactory
    f.transcript packets =
      (Machine.answers (Service.step f.dumper.freshEmitter) (.initial options.eitOutput)
        ((f.allDeliveries packets).filterMap (view targetSid))).flatten := by
  intro f
  have hconfig : CaptionDumper.Config targetSid f.dumper.freshEmitter f.dumper :=
    CaptionDumper.config_new targetSid options makeDecoderFactory
  have hnew : f.dumper.abs = .initial options.eitOutput := CaptionDumper.abs_new targetSid options makeDecoderFactory
  rw [transcript_eq, CaptionDumper.handleAll, CaptionDumper.records_run hconfig, hnew]

omit [PacketAccessors] in
/-- Without caption streams a PES packet does nothing. -/
theorem handleAll_pes_of_empty {d : CaptionDumper δ} (hempty : d.captionEmitters = ∅) (pes : List PESPacket) :
    (d.handleAll (pes.map .pes)).2 = [] := by
  have hstep : ∀ packet, d.step (.pes packet) = (d, []) := by
    intro packet
    simp [CaptionDumper.step, CaptionDumper.handlePESPacket, hempty]
  unfold CaptionDumper.handleAll
  induction pes with
  | nil => rfl
  | cons packet pes ih =>
    simp only [List.map_cons, Machine.answers_cons, hstep, List.flatten_cons, List.nil_append]
    exact ih

/-- With no packet there is nothing to record. -/
theorem transcript_nil (targetSid : UInt16) (options : CaptionDumperOptions)
    (makeDecoderFactory : Profile → CaptionDecoderFactory δ) :
    (new targetSid options makeDecoderFactory : Feeding α β δ).transcript [] = [] := by
  rw [transcript_eq]
  exact handleAll_pes_of_empty rfl _

end Feeding

end AribcapDump
