import AribcapDump.Framer.Verdict
import AribcapDump.Program.Feeding
import AribcapDump.Program.JsonlOutput

/-!
# The program

`Run` of main.cc, with `FdByteReader` of core/packet_framer: the input is opened
and read, the packets framed and dumped, the records written to standard output,
and the exit code tells how that went.

The answers of `open`, `read` and the buffer of standard output are parameters.
A write that fails is one that the stream reports: the process is not ended by
`SIGPIPE`.

* `offer_onPacket`: a packet after a failed write is not asked for.
* `run_spec`: what every run writes, and how it exits.
-/

namespace AribcapDump

/-! ## Reading -/

/-- What `read` answers: some bytes (none at the end of the input), or an error, `EINTR` or another. -/
inductive SysRead
  | bytes (data : List UInt8)
  | interrupted
  | error

namespace FdByteReader

/-- `Read`, with the answers of `read` still to come. -/
def read : List SysRead → ReadResult × List SysRead
  | [] => (.bytes [], [])
  | .interrupted :: reads => read reads
  | .bytes data :: reads => (.bytes data, reads)
  | .error :: reads => (.error, reads)

/-- What successive calls of `Read` answer. -/
def answers : List SysRead → ByteReader
  | [] => []
  | .interrupted :: reads => answers reads
  | .bytes data :: reads => .bytes data :: answers reads
  | .error :: reads => .error :: answers reads

/-- They are what it answers each time. -/
theorem read_eq (reads : List SysRead) :
    (read reads).1 = (answers reads).headD (.bytes []) ∧ answers (read reads).2 = (answers reads).tail := by
  induction reads with
  | nil => exact ⟨rfl, rfl⟩
  | cons answer reads ih =>
    cases answer with
    | interrupted => exact ih
    | bytes data => exact ⟨rfl, rfl⟩
    | error => exact ⟨rfl, rfl⟩

end FdByteReader

/-! ## Running -/

def failedToOpen (file : Bytes) : Bytes := ascii "aribcap-dump: failed to open " ++ file ++ [10]

def failedToWrite : Bytes := ascii "aribcap-dump: failed to write JSONL output\n"

def noSyncMessage : Bytes :=
  ascii "aribcap-dump: could not confirm a TS sync byte sequence near the start; " ++
    ascii "input may be truncated or not an MPEG-TS stream\n"

def failedToRead : Bytes := ascii "aribcap-dump: failed while reading TS input\n"

/-- The exit code, and what the streams were given. -/
structure Exit where
  code : ℕ
  stdout : OStream UInt8
  stderr : Bytes

section
variable {α β δ : Type} [Jsoncons] [TSDuck] [CaptionDecoder δ] [PacketAccessors] [Demuxers α β]
  (buf : StreamBuf UInt8)

open JsonlOutputRecordSink

/-- The packet handler of `Run`. -/
def onPacket : PacketHandler (Feeding α β δ × OStream UInt8) := fun s packet =>
  let fed := s.1.feedPacket packet
  let stdout := emitAll buf s.2 fed.2
  ((fed.1, stdout), stdout.good)

/-- The exit, by the status of the read and the state of standard output. -/
def exitOf (status : ReadFrameStatus) (stdout : OStream UInt8) : Exit :=
  if stdout.good = false then ⟨1, stdout, failedToWrite⟩
  else
    match status with
    | .ok => ⟨0, stdout, []⟩
    | .noSync => ⟨1, stdout, noSyncMessage⟩
    | .failed => ⟨1, stdout, failedToRead⟩

/-- `Run` after the read: `Flush`, if standard output is good, and the exit. -/
def finish (status : ReadFrameStatus) (s : Feeding α β δ × OStream UInt8) : Exit :=
  exitOf status (if s.2.good then emitAll buf s.2 s.1.flush.2 else s.2)

/-- `Run`: `opens` is whether `open` succeeds, where there is a file to open. -/
def run (start : Feeding α β δ) (file : Bytes) (opens : Bool) (reads : List SysRead) : Except Fault Exit :=
  if file ≠ [] ∧ opens = false then .ok ⟨1, {}, failedToOpen file⟩
  else
    match readAndFramePackets (onPacket buf) (FdByteReader.answers reads) (start, {}) with
    | .error fault => .error fault
    | .ok (status, world) => .ok (finish buf status world.state)

/-! ## Packets -/

/-- **Packets are handled until a write fails.**  Standard output is as if all had been, and the packets are all
accepted exactly if it is good then. -/
theorem offer_onPacket (f : Feeding α β δ) (stdout : OStream UInt8) (hgood : stdout.good = true)
    (packets : List TSPacket) :
    let offered := Offer.offer (onPacket buf) (f, stdout) packets
    let records := (Machine.answers Feeding.feedPacket f packets).flatten
    offered.state.2 = emitAll buf stdout records ∧ offered.accepted = (emitAll buf stdout records).good ∧
      (offered.accepted = true → offered.state.1 = Machine.run Feeding.feedPacket f packets) := by
  induction packets generalizing f stdout with
  | nil => exact ⟨rfl, hgood.symm, fun _ => rfl⟩
  | cons packet packets ih =>
    simp only [Machine.answers_cons, Machine.run_cons, List.flatten_cons, emitAll_append]
    cases hstdout : (emitAll buf stdout (f.feedPacket packet).2).good with
    | true =>
      rw [Offer.offer_cons_of_accept _ _ _ _ hstdout]
      exact ih (f.feedPacket packet).1 _ hstdout
    | false =>
      rw [Offer.offer_cons_of_refuse _ _ _ _ hstdout, emitAll_of_not_good hstdout]
      exact ⟨rfl, hstdout.symm, fun h => (by cases h)⟩

/-! ## Runs -/

/-- How a run ends that receives `b` up to `inputEnd`, if `records` are the records of all its packets. -/
structure ExitSpec (b : List UInt8) (inputEnd : InputEnd) (records : List OutputRecord) (exit : Exit) : Prop where
  stdout_eq : exit.stdout = emitAll buf {} records
  part : exit.stdout.written <+: jsonl records
  complete : exit.stdout.good = true → exit.stdout.written = jsonl records
  success : exit.stdout.good = true → inputEnd = .eof → SyncConfirmed b → exit.code = 0 ∧ exit.stderr = []
  writeFailed : exit.stdout.good = false → exit.code = 1 ∧ exit.stderr = failedToWrite
  noSync : inputEnd = .eof → ¬ SyncConfirmed b → exit.code = 1 ∧ exit.stderr = noSyncMessage
  readFailed : inputEnd = .error → exit.stdout.good = true →
    exit.code = 1 ∧ (exit.stderr = failedToRead ∨ SyncExcluded b ∧ exit.stderr = noSyncMessage)
  silent : ¬ SyncConfirmed b → exit.stdout = {}

theorem finish_eq (start : Feeding α β δ) (packets : List TSPacket) (status : ReadFrameStatus) :
    finish buf status (Offer.offer (onPacket buf) (start, {}) packets).state =
      exitOf status (emitAll buf {} (start.transcript packets)) := by
  obtain ⟨hstdout, haccepted, hstate⟩ := offer_onPacket buf start {} rfl packets
  rw [finish, hstdout, ← haccepted, Feeding.transcript, emitAll_append]
  cases hall : (Offer.offer (onPacket buf) (start, {}) packets).accepted with
  | true => rw [if_pos rfl, hstate hall]
  | false =>
    rw [hall] at haccepted
    rw [if_neg Bool.false_ne_true, emitAll_of_not_good haccepted.symm]

omit [TSDuck] [PacketAccessors] in
/-- The exit is as specified, where the handler refused a packet only if a write failed. -/
theorem exitSpec_exitOf {b : List UInt8} {inputEnd : InputEnd} {accepted : Bool} {status : ReadFrameStatus}
    (hverdict : Verdict b inputEnd accepted status) {records : List OutputRecord}
    (hrefused : accepted = false → (emitAll buf {} records).good = false) (hsilent : ¬ SyncConfirmed b → records = []) :
    ExitSpec buf b inputEnd records (exitOf status (emitAll buf {} records)) := by
  have hstdout : (exitOf status (emitAll buf {} records)).stdout = emitAll buf {} records := by
    unfold exitOf
    split
    · rfl
    · cases status <;> rfl
  obtain ⟨hcomplete, hpart⟩ := emitAll_spec buf records
  have hquiet : ¬ SyncConfirmed b → emitAll buf {} records = {} := fun hsync => by rw [hsilent hsync]; rfl
  cases hgood : (emitAll buf {} records).good with
  | false =>
    have hbad : (exitOf status (emitAll buf {} records)).stdout.good ≠ true := by
      rw [hstdout, hgood]
      decide
    have hexit : exitOf status (emitAll buf {} records) = ⟨1, emitAll buf {} records, failedToWrite⟩ := if_pos hgood
    exact {
      stdout_eq := hstdout
      part := by rw [hstdout]; exact hpart
      complete := fun h => absurd h hbad
      success := fun h => absurd h hbad
      writeFailed := fun _ => by rw [hexit]; exact ⟨rfl, rfl⟩
      noSync := fun _ hsync => by rw [hquiet hsync] at hgood; cases hgood
      readFailed := fun _ h => absurd h hbad
      silent := fun hsync => hstdout.trans (hquiet hsync) }
  | true =>
    have hfine : (exitOf status (emitAll buf {} records)).stdout.good ≠ false := by
      rw [hstdout, hgood]
      decide
    have hnot : (emitAll buf {} records).good ≠ false := by
      rw [hgood]
      decide
    exact {
      stdout_eq := hstdout
      part := by rw [hstdout]; exact hpart
      complete := fun _ => by rw [hstdout]; exact hcomplete hgood
      success := fun _ hend hsync => by
        subst hend
        cases hverdict with
        | ok _ => rw [exitOf, if_neg hnot]; exact ⟨rfl, rfl⟩
        | noSync h => exact absurd hsync h
        | refused => exact absurd (hrefused rfl) hnot
      writeFailed := fun h => absurd h hfine
      noSync := fun hend hsync => by
        subst hend
        cases hverdict with
        | ok h => exact absurd h hsync
        | noSync _ => rw [exitOf, if_neg hnot]; exact ⟨rfl, rfl⟩
        | refused => exact absurd (hrefused rfl) hnot
      readFailed := fun hend _ => by
        subst hend
        cases hverdict with
        | excluded h => rw [exitOf, if_neg hnot]; exact ⟨rfl, .inr ⟨h, rfl⟩⟩
        | failed => rw [exitOf, if_neg hnot]; exact ⟨rfl, .inl rfl⟩
        | refused => exact absurd (hrefused rfl) hnot
      silent := fun hsync => hstdout.trans (hquiet hsync) }

omit [TSDuck] [PacketAccessors] in
/-- The bytes, how the input ended and the records leave one way to end, but for the message after a read error. -/
theorem ExitSpec.agree {b : List UInt8} {inputEnd : InputEnd} {records : List OutputRecord} {exit exit' : Exit}
    (h : ExitSpec buf b inputEnd records exit) (h' : ExitSpec buf b inputEnd records exit') :
    exit'.stdout = exit.stdout ∧ exit'.code = exit.code ∧ (inputEnd = .eof → exit'.stderr = exit.stderr) := by
  have hstdout : exit'.stdout = exit.stdout := h'.stdout_eq.trans h.stdout_eq.symm
  refine ⟨hstdout, ?_⟩
  cases hgood : exit.stdout.good with
  | false =>
    obtain ⟨hcode, hstderr⟩ := h.writeFailed hgood
    obtain ⟨hcode', hstderr'⟩ := h'.writeFailed (hstdout ▸ hgood)
    exact ⟨hcode'.trans hcode.symm, fun _ => hstderr'.trans hstderr.symm⟩
  | true =>
    cases inputEnd with
    | error =>
      exact ⟨(h'.readFailed rfl (hstdout ▸ hgood)).1.trans (h.readFailed rfl hgood).1.symm, fun heof => (by cases heof)⟩
    | eof =>
      by_cases hsync : SyncConfirmed b
      · obtain ⟨hcode, hstderr⟩ := h.success hgood rfl hsync
        obtain ⟨hcode', hstderr'⟩ := h'.success (hstdout ▸ hgood) rfl hsync
        exact ⟨hcode'.trans hcode.symm, fun _ => hstderr'.trans hstderr.symm⟩
      · obtain ⟨hcode, hstderr⟩ := h.noSync rfl hsync
        obtain ⟨hcode', hstderr'⟩ := h'.noSync rfl hsync
        exact ⟨hcode'.trans hcode.symm, fun _ => hstderr'.trans hstderr.symm⟩

/-- A run with the input open. -/
theorem run_exitSpec (targetSid : UInt16) (options : CaptionDumperOptions)
    (makeDecoderFactory : Profile → CaptionDecoderFactory δ) {file : Bytes} {opens : Bool}
    (hopen : ¬ (file ≠ [] ∧ opens = false)) (reads : List SysRead) :
    let start : Feeding α β δ := .new targetSid options makeDecoderFactory
    let input := received (FdByteReader.answers reads)
    ∃ exit, run buf start file opens reads = .ok exit ∧
      ExitSpec buf input.1 input.2 (start.transcript (PacketFramer.frames {} input.1)) exit := by
  intro start input
  obtain ⟨status, hread, hverdict⟩ :=
    readAndFramePackets_verdict (onPacket buf) (start, {}) (FdByteReader.answers reads)
  unfold run
  rw [if_neg hopen, hread]
  refine ⟨_, rfl, ?_⟩
  have hfinish : finish buf status (deliver (onPacket buf) ⟨(start, {}), []⟩ (PacketFramer.frames {} input.1)).1.state =
      exitOf status (emitAll buf {} (start.transcript (PacketFramer.frames {} input.1))) := finish_eq buf start _ status
  rw [hfinish]
  refine exitSpec_exitOf buf hverdict (fun hrefused => ?_) fun hsync => ?_
  · obtain ⟨-, haccepted, -⟩ := offer_onPacket buf start {} rfl (PacketFramer.frames {} input.1)
    have hbad := haccepted.symm.trans hrefused
    rw [Feeding.transcript, emitAll_append, emitAll_of_not_good hbad]
    exact hbad
  · rw [(frames_fresh_eq_nil_iff _).mpr hsync]
    exact Feeding.transcript_nil targetSid options makeDecoderFactory

/-- **Every run of the program.**  If the input opens, the packets of the bytes received are dumped, and the records of
the service they tell of are written as lines, up to the first write that fails; the exit code is 0 exactly if none
does, the input came to its end and a sync was confirmed in it.  How the input was cut into reads makes no difference to
what is written and to the exit code, and where the input came to its end it makes none to the message. -/
theorem run_spec (targetSid : UInt16) (options : CaptionDumperOptions)
    (makeDecoderFactory : Profile → CaptionDecoderFactory δ) (file : Bytes) (opens : Bool) (reads : List SysRead) :
    let start : Feeding α β δ := .new targetSid options makeDecoderFactory
    let input := received (FdByteReader.answers reads)
    let told := (start.allDeliveries (PacketFramer.frames {} input.1)).filterMap (view targetSid)
    let records := (Machine.answers (Service.step start.dumper.freshEmitter) (.initial options.eitOutput) told).flatten
    ∃ exit, run buf start file opens reads = .ok exit ∧
      (file ≠ [] ∧ opens = false → exit = ⟨1, {}, failedToOpen file⟩) ∧
      (file = [] ∨ opens = true → ExitSpec buf input.1 input.2 records exit) ∧
      ∀ reads', received (FdByteReader.answers reads') = input → ∃ exit', run buf start file opens reads' = .ok exit' ∧
        exit'.stdout = exit.stdout ∧ exit'.code = exit.code ∧ (input.2 = .eof → exit'.stderr = exit.stderr) := by
  intro start input told records
  have hrecords : start.transcript (PacketFramer.frames {} input.1) = records :=
    Feeding.transcript_eq_service targetSid options makeDecoderFactory _
  by_cases hopen : file ≠ [] ∧ opens = false
  · have hfailed : ∀ reads', run buf start file opens reads' = .ok ⟨1, {}, failedToOpen file⟩ := fun _ => if_pos hopen
    refine ⟨_, hfailed reads, fun _ => rfl, fun hopens => ?_, fun reads' _ => ?_⟩
    · rcases hopens with hfile | hopens
      · exact absurd hfile hopen.1
      · rw [hopen.2] at hopens
        cases hopens
    · exact ⟨_, hfailed reads', rfl, rfl, fun _ => rfl⟩
  · have hrun : ∀ reads', ∃ exit, run buf start file opens reads' = .ok exit ∧
        ExitSpec buf (received (FdByteReader.answers reads')).1 (received (FdByteReader.answers reads')).2
          (start.transcript (PacketFramer.frames {} (received (FdByteReader.answers reads')).1)) exit :=
      run_exitSpec buf targetSid options makeDecoderFactory hopen
    obtain ⟨exit, hread, hspec⟩ := hrun reads
    refine ⟨exit, hread, fun h => absurd h hopen, fun _ => hrecords ▸ hspec, fun reads' hsame => ?_⟩
    obtain ⟨exit', hread', hspec'⟩ := hrun reads'
    rw [hsame] at hspec'
    exact ⟨exit', hread', hspec.agree buf hspec'⟩

end

end AribcapDump
