import AribcapDump.Lib.Offer

/-!
# The packet framer

`PacketFramer` of core/packet_framer: a byte stream cut into TS packets.  Until
four sync bytes stand 188 apart (a confirmed probe) the framer searches: at the
stream start only the first 188 offsets, after a sync loss without limit.

The input pointer pair `cursor`, `end` is the list of bytes not read yet, and
the array `pending_` with `pending_size_` is the list of its valid bytes; the
stale bytes behind them are never read.  What C++ leaves undefined is a `Fault`:
a copy that does not fit `pending_`, a read past the valid bytes, a `size_t`
difference below zero.  `size_t` counters are `Nat`: they count bytes of the
stream.
-/

namespace AribcapDump

def PKT_SIZE : Nat := 188

def SYNC_BYTE : UInt8 := 0x47

def kSyncProbePackets : Nat := 4

def kSyncProbeSize : Nat := PKT_SIZE * kSyncProbePackets

/-- `ts::TSPacket`: exactly `PKT_SIZE` bytes. -/
structure TSPacket where
  b : List UInt8
  size_eq : b.length = PKT_SIZE
deriving DecidableEq

/-- The first `PKT_SIZE` bytes of `data` viewed as a packet. -/
def packet? (data : List UInt8) : Option TSPacket :=
  if h : PKT_SIZE ≤ data.length then some ⟨data.take PKT_SIZE, List.length_take_of_le h⟩ else none

/-- Callback invoked for each complete packet: a state of its own, and whether to go on. -/
abbrev PacketHandler (σ : Type) := σ → TSPacket → σ × Bool

/-- The handler's state and every packet handed to it so far. -/
structure Deliveries (σ : Type) where
  state : σ
  packets : List TSPacket

inductive Mode
  | initialSync
  | seekingSync
  | synced
deriving DecidableEq, Repr

inductive FeedResult
  | continue
  | needMoreData
  | stop
deriving DecidableEq, Repr

inductive Fault
  | underflow
  | outOfBounds
  | loopLimit
deriving DecidableEq, Repr

structure PacketFramer where
  pending : List UInt8 := []
  initialOffset : Nat := 0
  mode : Mode := .initialSync
  initialSyncFailed : Bool := false
deriving DecidableEq, Repr

def PacketFramer.hasInitialSyncFailed (f : PacketFramer) : Bool := f.initialSyncFailed

/-- What one `FeedSeekingSync` or `FeedSynced` leaves: the framer, the bytes not read yet, the
handler's side, the result. -/
structure Step (σ : Type) where
  framer : PacketFramer
  rest : List UInt8
  world : Deliveries σ
  result : FeedResult

/-- What one `Feed` leaves. -/
structure FeedOutcome (σ : Type) where
  framer : PacketFramer
  world : Deliveries σ
  ok : Bool

/-! ## Buffer operations -/

/-- `a - b` on `size_t`. -/
def sizeSub (a b : Nat) : Except Fault Nat :=
  if b ≤ a then .ok (a - b) else .error .underflow

/-- `memcpy` of `src` to the end of the valid bytes of `pending_`. -/
def appendPending (pending src : List UInt8) : Except Fault (List UInt8) :=
  if pending.length + src.length ≤ kSyncProbeSize then .ok (pending ++ src) else .error .outOfBounds

/-- Every packet boundary buffered so far holds a sync byte. -/
def pendingSyncBytesAreValid (pending : List UInt8) : Bool :=
  (List.range kSyncProbePackets).all fun index =>
    !(decide (index * PKT_SIZE < pending.length) && pending[index * PKT_SIZE]? != some SYNC_BYTE)

/-- Drop `pending[0]` and everything up to the next sync byte: how many bytes, and what is left. -/
def discardPendingUntilNextSync : List UInt8 → Except Fault (Nat × List UInt8)
  | [] => .error .outOfBounds
  | b :: rest =>
    let discarded := rest.findIdx (· == SYNC_BYTE) + 1
    .ok (discarded, (b :: rest).drop discarded)

section
variable {σ : Type} (onPacket : PacketHandler σ)

/-! ## Delivery -/

def emitPacket (data : List UInt8) (w : Deliveries σ) : Except Fault (Deliveries σ × Bool) :=
  match packet? data with
  | none => .error .outOfBounds
  | some packet => .ok (⟨(onPacket w.state packet).1, w.packets ++ [packet]⟩, (onPacket w.state packet).2)

/-- The loop of `emitSyncConfirmedPackets`, `indexes` still to emit. -/
def emitProbePackets (data : List UInt8) : List Nat → Deliveries σ → Except Fault (Deliveries σ × Bool)
  | [], w => .ok (w, true)
  | index :: indexes, w =>
    match emitPacket onPacket (data.drop (index * PKT_SIZE)) w with
    | .error e => .error e
    | .ok (w, accepted) => if accepted then emitProbePackets data indexes w else .ok (w, false)

def emitSyncConfirmedPackets (data : List UInt8) (w : Deliveries σ) :
    Except Fault (Deliveries σ × Bool) :=
  emitProbePackets onPacket data (List.range kSyncProbePackets) w

/-! ## Searching for sync -/

/-- `FeedSeekingSync` from the copy into the probe window on. -/
def fillProbe (f : PacketFramer) (rest : List UInt8) (w : Deliveries σ) (initialSync : Bool) :
    Except Fault (Step σ) := do
  let needed ← sizeSub kSyncProbeSize f.pending.length
  let copied := min needed rest.length
  let pending ← appendPending f.pending (rest.take copied)
  let rest := rest.drop copied
  if !pendingSyncBytesAreValid pending then
    let (discarded, left) ← discardPendingUntilNextSync pending
    let f := { f with pending := left }
    if initialSync then
      -- the bound on the initial search, after a false candidate
      let f := { f with initialOffset := f.initialOffset + discarded }
      if PKT_SIZE ≤ f.initialOffset then
        return ⟨{ f with initialSyncFailed := true }, rest, w, .stop⟩
      else return ⟨f, rest, w, .continue⟩
    else return ⟨f, rest, w, .continue⟩
  else if pending.length < kSyncProbeSize then
    return ⟨{ f with pending := pending }, rest, w, .needMoreData⟩
  else
    let (w, accepted) ← emitSyncConfirmedPackets onPacket pending w
    if accepted then return ⟨{ f with pending := [], mode := .synced }, rest, w, .continue⟩
    else return ⟨{ f with pending := [] }, rest, w, .stop⟩

def feedSeekingSync (f : PacketFramer) (rest : List UInt8) (w : Deliveries σ) (initialSync : Bool) :
    Except Fault (Step σ) :=
  if f.pending.length = 0 then
    let skipped := rest.findIdx (· == SYNC_BYTE)
    let f := if initialSync then { f with initialOffset := f.initialOffset + skipped } else f
    let rest := rest.drop skipped
    if initialSync && decide (PKT_SIZE ≤ f.initialOffset) then
      .ok ⟨{ f with initialSyncFailed := true }, rest, w, .stop⟩
    else if rest.isEmpty then .ok ⟨f, rest, w, .needMoreData⟩
    else fillProbe onPacket f rest w initialSync
  else fillProbe onPacket f rest w initialSync

/-! ## Synchronized delivery -/

def feedSynced (f : PacketFramer) (rest : List UInt8) (w : Deliveries σ) : Except Fault (Step σ) := do
  if f.pending.length ≠ 0 then
    let needed ← sizeSub PKT_SIZE f.pending.length
    let copied := min needed rest.length
    let pending ← appendPending f.pending (rest.take copied)
    let rest := rest.drop copied
    if pending.length < PKT_SIZE then
      return ⟨{ f with pending := pending }, rest, w, .needMoreData⟩
    else
      let (w, accepted) ← emitPacket onPacket pending w
      return ⟨{ f with pending := [] }, rest, w, if accepted then .continue else .stop⟩
  else if rest.head? ≠ some SYNC_BYTE then
    return ⟨{ f with mode := .seekingSync }, rest, w, .continue⟩
  else if rest.length < PKT_SIZE then
    let pending ← appendPending [] rest
    return ⟨{ f with pending := pending }, rest, w, .needMoreData⟩
  else
    let (w, accepted) ← emitPacket onPacket rest w
    if accepted then return ⟨f, rest.drop PKT_SIZE, w, .continue⟩
    else return ⟨f, rest, w, .stop⟩

/-! ## Feed -/

/-- One turn of the loop in `Feed`. -/
def feedTurn (f : PacketFramer) (rest : List UInt8) (w : Deliveries σ) : Except Fault (Step σ) :=
  match f.mode with
  | .initialSync => feedSeekingSync onPacket f rest w true
  | .seekingSync => feedSeekingSync onPacket f rest w false
  | .synced => feedSynced onPacket f rest w

/-- The loop in `Feed`, with a limit on the number of turns. -/
def feedLoop : Nat → PacketFramer → List UInt8 → Deliveries σ → Except Fault (FeedOutcome σ)
  | _, f, [], w => .ok ⟨f, w, true⟩
  | 0, _, _ :: _, _ => .error .loopLimit
  | turns + 1, f, b :: rest, w =>
    match feedTurn onPacket f (b :: rest) w with
    | .error e => .error e
    | .ok st =>
      match st.result with
      | .stop => .ok ⟨st.framer, st.world, false⟩
      | .needMoreData => .ok ⟨st.framer, st.world, true⟩
      | .continue => feedLoop turns st.framer st.rest st.world

/-- `Feed`.  A turn reads a byte or leaves `synced` mode, so `2 * data.length + 1` turns are
enough (`feedLoop_spec`). -/
def feed (f : PacketFramer) (data : List UInt8) (w : Deliveries σ) : Except Fault (FeedOutcome σ) :=
  if data.length = 0 then .ok ⟨f, w, true⟩
  else feedLoop onPacket (2 * data.length + 1) f data w

/-! ## Reading to the end -/

/-- What one `ByteReader::Read` answers: some bytes (none at the end of the input), or an error. -/
inductive ReadResult
  | bytes (data : List UInt8)
  | error

/-- A reader: what its successive calls answer; past the list it stays at the end of the input. -/
abbrev ByteReader := List ReadResult

def PacketFramer.finishAtEof (f : PacketFramer) : PacketFramer :=
  if f.mode = .initialSync then { f with initialSyncFailed := true } else f

/-- What `FeedUntilEof` leaves: the framer, the handler's side, the reader's answers not asked for,
and the result. -/
structure ReadOutcome (σ : Type) where
  framer : PacketFramer
  world : Deliveries σ
  unread : ByteReader
  ok : Bool

def feedUntilEof : PacketFramer → ByteReader → Deliveries σ → Except Fault (ReadOutcome σ)
  | f, [], w => .ok ⟨f.finishAtEof, w, [], !f.finishAtEof.initialSyncFailed⟩
  | f, .error :: reader, w => .ok ⟨f, w, reader, false⟩
  | f, .bytes [] :: reader, w => .ok ⟨f.finishAtEof, w, reader, !f.finishAtEof.initialSyncFailed⟩
  | f, .bytes (b :: data) :: reader, w =>
    match feed onPacket f (b :: data) w with
    | .error e => .error e
    | .ok out =>
      if out.ok then feedUntilEof out.framer reader out.world else .ok ⟨out.framer, out.world, reader, false⟩

inductive ReadFrameStatus
  | ok
  | failed
  | noSync
deriving DecidableEq, Repr

/-- `ReadAndFramePackets`: the status and the packets of a whole input. -/
def readAndFramePackets (reader : ByteReader) (s : σ) : Except Fault (ReadFrameStatus × Deliveries σ) :=
  match feedUntilEof onPacket {} reader ⟨s, []⟩ with
  | .error e => .error e
  | .ok out =>
    if out.framer.hasInitialSyncFailed then .ok (.noSync, out.world)
    else if out.ok then .ok (.ok, out.world)
    else .ok (.failed, out.world)

end

end AribcapDump
