import AribcapDump.Framer.Resync
import AribcapDump.Program.Run

/-!
# From the file to the lines

A file of packets is dumped packet by packet, whatever stands before the first
one and however the last one is torn.  A file that goes on is dumped as far as
the shorter one: what is printed of its packets is printed of more, and only what
`Flush` gets out of unfinished PES packets at the end may be another.  A write that
fails is one that the stream reports.

* `run_packets`: a run over the packets of a file.
* `run_continued`: a run over more than was read before.
-/

namespace AribcapDump

section
variable {α β δ : Type} [Jsoncons] [TSDuck] [CaptionDecoder δ] [PacketAccessors] [Demuxers α β]
  (buf : StreamBuf UInt8)

open JsonlOutputRecordSink

/-- **A file of packets**: four or more, after fewer than 188 bytes in which no probe starts, and with fewer than 188
bytes after them.  Its lines are those of the records of the service that the packets tell of, and unless a write fails
the run succeeds. -/
theorem run_packets (targetSid : UInt16) (options : CaptionDumperOptions)
    (makeDecoderFactory : Profile → CaptionDecoderFactory δ) {junk tail : List UInt8} {packets : List TSPacket}
    (hsync : StartsWithSync packets) (hlen : 4 ≤ packets.length) (hjunk : junk.length < PKT_SIZE)
    (hquiet : ∀ i < junk.length, isProbe ((junk ++ bytesOf packets).drop i) = false) (htail : tail.length < PKT_SIZE)
    {file : Bytes} {opens : Bool} (hopen : ¬ (file ≠ [] ∧ opens = false)) {reads : List SysRead}
    (hreceived : received (FdByteReader.answers reads) = (junk ++ bytesOf packets ++ tail, .eof)) :
    let start : Feeding α β δ := .new targetSid options makeDecoderFactory
    let told := (start.allDeliveries packets).filterMap (view targetSid)
    let records := (Machine.answers (Service.step start.dumper.freshEmitter) (.initial options.eitOutput) told).flatten
    ∃ exit, run buf start file opens reads = .ok exit ∧ exit.stdout = emitAll buf {} records ∧
      (exit.stdout.good = true → exit.code = 0 ∧ exit.stderr = [] ∧ exit.stdout.written = jsonl records) ∧
      (exit.stdout.good = false → exit.code = 1 ∧ exit.stderr = failedToWrite) := by
  intro start told records
  have hexit : ∃ exit, run buf start file opens reads = .ok exit ∧
      ExitSpec buf (received (FdByteReader.answers reads)).1 (received (FdByteReader.answers reads)).2
        (start.transcript (PacketFramer.frames {} (received (FdByteReader.answers reads)).1)) exit :=
    run_exitSpec buf targetSid options makeDecoderFactory hopen reads
  have hframes : PacketFramer.frames {} (junk ++ bytesOf packets ++ tail) = packets := by
    rw [frames_fresh_bytesOf hsync hlen hjunk hquiet, syncedFrames_of_short htail, List.append_nil]
  have hrecords : start.transcript packets = records :=
    Feeding.transcript_eq_service targetSid options makeDecoderFactory packets
  rw [hreceived, hframes, hrecords] at hexit
  obtain ⟨exit, hrun, hspec⟩ := hexit
  have hconfirmed : SyncConfirmed (junk ++ bytesOf packets ++ tail) := by
    refine ⟨junk.length, hjunk, ?_⟩
    rw [List.append_assoc, List.drop_left]
    exact isProbe_bytesOf hsync hlen tail
  refine ⟨exit, hrun, hspec.stdout_eq, fun hgood => ?_, hspec.writeFailed⟩
  obtain ⟨hcode, hstderr⟩ := hspec.success hgood rfl hconfirmed
  exact ⟨hcode, hstderr, hspec.complete hgood⟩

end

/-- A buffer that takes everything and lets everything through. -/
def soundBuf : StreamBuf UInt8 :=
  ⟨fun _ _ items => items.length, fun _ buffered => buffered.length, fun _ buffered => buffered.length⟩

/-- A section demuxer that reads a PAT off every packet, which lists service 1 on the PID of the EITs. -/
@[reducible] def Demuxers.collidingPats : Demuxers Unit Unit where
  newSections := ()
  newPes := ()
  feedSections sections _ _ := (sections, [.ofPat ⟨true, (∅ : Std.ExtTreeMap UInt16 PID).insert 1 PID_EIT⟩])
  feedPes pes _ _ := (pes, [])
  flushUnboundedPes pes _ := (pes, [])

/-- Packets of PID 0x100 without a PCR. -/
@[reducible] def PacketAccessors.ofPid : PacketAccessors where
  view packet := ⟨packet.b.head? == some SYNC_BYTE, 0x100, false, 0, false⟩

/-- Four packets after two other bytes, the last one followed by a byte of another, in two reads of which the second is
interrupted. -/
theorem run_packets_collidingPats :
    letI := Jsoncons.documented
    letI := TSDuck.documented
    letI := CaptionDecoder.always ⟨[65], [], 0⟩
    letI := PacketAccessors.ofPid
    letI := Demuxers.collidingPats
    let start : Feeding Unit Unit Unit := .new 1 {} fun _ _ _ => ()
    ∃ exit, run soundBuf start [] true
        [.bytes [SYNC_BYTE, 0], .interrupted, .bytes (bytesOf (zeroPackets 4) ++ [SYNC_BYTE])] = .ok exit ∧
      (exit.stdout.good = true → exit.code = 0 ∧
        exit.stdout.written = jsonl (List.replicate 4 (.diagnostic (.reservedPmtPidCollision ⟨PID_EIT⟩)))) := by
  let := Jsoncons.documented
  let := TSDuck.documented
  let := CaptionDecoder.always ⟨[65], [], 0⟩
  let := PacketAccessors.ofPid
  let := Demuxers.collidingPats
  intro start
  have hrecords : (Machine.answers (Service.step start.dumper.freshEmitter) (.initial .kPresent)
      ((start.allDeliveries (zeroPackets 4)).filterMap (view 1))).flatten =
        List.replicate 4 (.diagnostic (.reservedPmtPidCollision ⟨PID_EIT⟩)) := by decide
  have hstdin : ¬ (([] : Bytes) ≠ [] ∧ true = false) := by decide
  have hreceived : received (FdByteReader.answers
      [.bytes [SYNC_BYTE, 0], .interrupted, .bytes (bytesOf (zeroPackets 4) ++ [SYNC_BYTE])]) =
        ([SYNC_BYTE, 0] ++ bytesOf (zeroPackets 4) ++ [SYNC_BYTE], .eof) := by
    simp only [FdByteReader.answers]
    rw [received_bytes (by simp), received_bytes (by simp), received, List.append_nil, List.append_assoc]
  obtain ⟨exit, hrun, -, hgood, -⟩ := @run_packets Unit Unit Unit _ _ _ _ _ soundBuf 1 {} (fun _ _ _ => ())
    [SYNC_BYTE, 0] [SYNC_BYTE] (zeroPackets 4) (startsWithSync_zeroPackets 4) (by decide) (by decide)
    isProbe_before_zeroPackets (by decide) [] true hstdin _ hreceived
  refine ⟨exit, hrun, fun h => ?_⟩
  obtain ⟨hcode, -, hwritten⟩ := hgood h
  exact ⟨hcode, hwritten.trans (congrArg jsonl hrecords)⟩

section
variable {α β δ : Type} [Jsoncons] [TSDuck] [CaptionDecoder δ] [PacketAccessors] [Demuxers α β]
  (buf : StreamBuf UInt8)

/-- **A file that goes on** from where another ends: what the packets of the shorter one print is printed of both, and
after it in the shorter one only what `Flush` delivers. -/
theorem run_continued (targetSid : UInt16) (options : CaptionDumperOptions)
    (makeDecoderFactory : Profile → CaptionDecoderFactory δ) {file : Bytes} {opens : Bool}
    (hopen : ¬ (file ≠ [] ∧ opens = false)) {reads reads' : List SysRead}
    (hcontinued : (received (FdByteReader.answers reads)).1 <+: (received (FdByteReader.answers reads')).1) :
    let start : Feeding α β δ := .new targetSid options makeDecoderFactory
    let packets := PacketFramer.frames {} (received (FdByteReader.answers reads)).1
    let printed := (Machine.answers Feeding.feedPacket start packets).flatten
    ∃ exit exit' more, run buf start file opens reads = .ok exit ∧ run buf start file opens reads' = .ok exit' ∧
      (exit.stdout.good = true → exit.stdout.written =
        jsonl printed ++ jsonl (Machine.run Feeding.feedPacket start packets).flush.2) ∧
      (exit'.stdout.good = true → exit'.stdout.written = jsonl printed ++ jsonl more) := by
  intro start packets printed
  have hexit : ∀ reads, ∃ exit, run buf start file opens reads = .ok exit ∧
      ExitSpec buf (received (FdByteReader.answers reads)).1 (received (FdByteReader.answers reads)).2
        (start.transcript (PacketFramer.frames {} (received (FdByteReader.answers reads)).1)) exit :=
    run_exitSpec buf targetSid options makeDecoderFactory hopen
  obtain ⟨exit, hrun, hspec⟩ := hexit reads
  obtain ⟨exit', hrun', hspec'⟩ := hexit reads'
  obtain ⟨e, he⟩ := hcontinued
  obtain ⟨rest, hrest⟩ := frames_append good_fresh (received (FdByteReader.answers reads)).1 e
  rw [he] at hrest
  have hmore : start.transcript (PacketFramer.frames {} (received (FdByteReader.answers reads')).1) =
      printed ++ (Machine.run Feeding.feedPacket start packets).transcript rest := by
    rw [hrest, Feeding.transcript, Machine.answers_append, Machine.run_append, List.flatten_append, List.append_assoc]
    rfl
  refine ⟨exit, exit', (Machine.run Feeding.feedPacket start packets).transcript rest, hrun, hrun', fun hgood => ?_,
    fun hgood => ?_⟩
  · exact (hspec.complete hgood).trans List.flatMap_append
  · rw [hspec'.complete hgood, hmore]
    exact List.flatMap_append

end

/-- Four packets, and four packets and one more. -/
theorem run_continued_collidingPats :
    letI := Jsoncons.documented
    letI := TSDuck.documented
    letI := CaptionDecoder.always ⟨[65], [], 0⟩
    letI := PacketAccessors.ofPid
    letI := Demuxers.collidingPats
    let start : Feeding Unit Unit Unit := .new 1 {} fun _ _ _ => ()
    let packets := PacketFramer.frames {} (bytesOf (zeroPackets 4))
    let printed := (Machine.answers Feeding.feedPacket start packets).flatten
    ∃ exit exit' more, run soundBuf start [] true [.bytes (bytesOf (zeroPackets 4))] = .ok exit ∧
      run soundBuf start [] true [.bytes (bytesOf (zeroPackets 4)), .bytes (bytesOf (zeroPackets 1))] = .ok exit' ∧
      (exit.stdout.good = true → exit.stdout.written =
        jsonl printed ++ jsonl (Machine.run Feeding.feedPacket start packets).flush.2) ∧
      (exit'.stdout.good = true → exit'.stdout.written = jsonl printed ++ jsonl more) := by
  let := Jsoncons.documented
  let := TSDuck.documented
  let := CaptionDecoder.always ⟨[65], [], 0⟩
  let := PacketAccessors.ofPid
  let := Demuxers.collidingPats
  have hstdin : ¬ (([] : Bytes) ≠ [] ∧ true = false) := by decide
  have hne : bytesOf (zeroPackets 4) ≠ [] := by decide
  have hfirst : received (FdByteReader.answers [.bytes (bytesOf (zeroPackets 4))]) = (bytesOf (zeroPackets 4), .eof) := by
    simp only [FdByteReader.answers]
    rw [received_bytes hne, received, List.append_nil]
  have hcontinued : (received (FdByteReader.answers [.bytes (bytesOf (zeroPackets 4))])).1 <+:
      (received (FdByteReader.answers [.bytes (bytesOf (zeroPackets 4)), .bytes (bytesOf (zeroPackets 1))])).1 := by
    rw [hfirst]
    simp only [FdByteReader.answers]
    rw [received_bytes hne]
    exact List.prefix_append _ _
  have hrun := @run_continued Unit Unit Unit _ _ _ _ _ soundBuf 1 {} (fun _ _ _ => ()) [] true hstdin _ _ hcontinued
  rwa [hfirst] at hrun

end AribcapDump
