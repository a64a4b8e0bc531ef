import AribcapDump.Framer.PacketFramer
import AribcapDump.Lib.Scan

/-!
# The packets of a byte string

What the framer is for, with no buffer, no offsets and no chunks: the packets of
the bytes still to come.  A probe is four sync bytes 188 apart with 752 bytes
there; `seekFrames` starts at the first probe, `syncedFrames` follows packets
while they start with a sync byte and searches again when one does not,
`initialFrames` takes only a probe below the bound.

`PacketFramer.frames f e` is the packets a framer in state `f` still owes for
the bytes `e`: its buffered bytes come first.
-/

namespace AribcapDump

/-- A confirmed probe at the front of `xs`. -/
def isProbe (xs : List UInt8) : Bool :=
  decide (kSyncProbeSize ≤ xs.length) &&
    (List.range kSyncProbePackets).all fun index => xs[index * PKT_SIZE]? == some SYNC_BYTE

/-- The four packets of a probe. -/
def probePackets (xs : List UInt8) : List TSPacket :=
  (List.range kSyncProbePackets).filterMap fun index => packet? (xs.drop (index * PKT_SIZE))

/-- Packets from a packet boundary on. -/
def syncedFrames : List UInt8 → List TSPacket
  | [] => []
  | b :: rest =>
    if b = SYNC_BYTE then
      match packet? (b :: rest) with
      | none => []
      | some packet => packet :: syncedFrames ((b :: rest).drop PKT_SIZE)
    else
      match Scan.firstSuffix isProbe (b :: rest) with
      | none => []
      | some c => probePackets ((b :: rest).drop c) ++ syncedFrames ((b :: rest).drop (c + kSyncProbeSize))
termination_by xs => xs.length
decreasing_by
  · rw [List.length_drop, List.length_cons, PKT_SIZE]
    omega
  · rw [List.length_drop, List.length_cons, kSyncProbeSize, PKT_SIZE, kSyncProbePackets]
    omega

/-- Packets from the first probe on. -/
def seekFrames (xs : List UInt8) : List TSPacket :=
  match Scan.firstSuffix isProbe xs with
  | none => []
  | some c => probePackets (xs.drop c) ++ syncedFrames (xs.drop (c + kSyncProbeSize))

/-- Packets from the first probe on, if it stands before stream offset `PKT_SIZE`; `offset` is the
stream offset of `xs`. -/
def initialFrames (offset : Nat) (xs : List UInt8) : List TSPacket :=
  match Scan.firstSuffix isProbe xs with
  | none => []
  | some c =>
    if offset + c < PKT_SIZE then
      probePackets (xs.drop c) ++ syncedFrames (xs.drop (c + kSyncProbeSize))
    else []

/-- The packets a framer owes for the bytes `e`. -/
def PacketFramer.frames (f : PacketFramer) (e : List UInt8) : List TSPacket :=
  match f.mode with
  | .initialSync => initialFrames f.initialOffset (f.pending ++ e)
  | .seekingSync => seekFrames (f.pending ++ e)
  | .synced => syncedFrames (f.pending ++ e)

theorem kSyncProbeSize_eq : kSyncProbeSize = 752 := rfl

theorem PKT_SIZE_eq : PKT_SIZE = 188 := rfl

/-! ## Packets -/

theorem packet?_of_le {xs : List UInt8} (h : PKT_SIZE ≤ xs.length) :
    packet? xs = some ⟨xs.take PKT_SIZE, List.length_take_of_le h⟩ := by
  rw [packet?, dif_pos h]

theorem packet?_of_lt {xs : List UInt8} (h : xs.length < PKT_SIZE) : packet? xs = none := by
  rw [packet?, dif_neg (by omega)]

theorem packet?_append {xs : List UInt8} (h : PKT_SIZE ≤ xs.length) (e : List UInt8) :
    packet? (xs ++ e) = packet? xs := by
  rw [packet?_of_le h, packet?_of_le (by simp; omega)]
  simp only [List.take_append_of_le_length h]

theorem probePackets_append {xs : List UInt8} (h : kSyncProbeSize ≤ xs.length) (e : List UInt8) :
    probePackets (xs ++ e) = probePackets xs := by
  unfold probePackets
  apply List.filterMap_congr
  intro index hi
  have hi4 : index < 4 := List.mem_range.mp hi
  rw [kSyncProbeSize_eq] at h
  have hle : index * PKT_SIZE ≤ xs.length := by rw [PKT_SIZE_eq]; omega
  rw [List.drop_append_of_le_length hle, packet?_append]
  rw [List.length_drop, PKT_SIZE_eq]
  omega

theorem probePackets_ne_nil {xs : List UInt8} (h : kSyncProbeSize ≤ xs.length) :
    probePackets xs ≠ [] := by
  have h0 : PKT_SIZE ≤ xs.length := by rw [kSyncProbeSize_eq] at h; rw [PKT_SIZE_eq]; omega
  intro hnil
  have := (List.filterMap_eq_nil_iff.mp hnil) 0 (by simp [kSyncProbePackets])
  rw [Nat.zero_mul, List.drop_zero, packet?_of_le h0] at this
  cases this

/-! ## Probes -/

theorem isProbe_eq_true_iff (xs : List UInt8) :
    isProbe xs = true ↔ kSyncProbeSize ≤ xs.length ∧
      ∀ index, index < kSyncProbePackets → xs[index * PKT_SIZE]? = some SYNC_BYTE := by
  simp [isProbe]

theorem isProbe_of_short {xs : List UInt8} (h : xs.length < kSyncProbeSize) : isProbe xs = false := by
  rw [Bool.eq_false_iff]
  intro hp
  have := ((isProbe_eq_true_iff xs).mp hp).1
  omega

theorem isProbe_of_head {xs : List UInt8} (h : xs.head? ≠ some SYNC_BYTE) : isProbe xs = false := by
  rw [Bool.eq_false_iff]
  intro hp
  have := ((isProbe_eq_true_iff xs).mp hp).2 0 (by decide)
  rw [Nat.zero_mul, ← List.head?_eq_getElem?] at this
  exact h this

theorem ne_nil_of_isProbe {xs : List UInt8} (h : isProbe xs = true) : xs ≠ [] := by
  rintro rfl
  cases h

theorem pendingSyncBytesAreValid_iff (xs : List UInt8) :
    pendingSyncBytesAreValid xs = true ↔ ∀ index, index < kSyncProbePackets →
      index * PKT_SIZE < xs.length → xs[index * PKT_SIZE]? = some SYNC_BYTE := by
  simp only [pendingSyncBytesAreValid, List.all_eq_true, List.mem_range, Bool.not_eq_true',
    Bool.and_eq_false_imp, decide_eq_true_eq, bne_eq_false_iff_eq]

/-- A buffered boundary without a sync byte rules the candidate out, whatever follows. -/
theorem isProbe_of_invalid {xs : List UInt8} (h : pendingSyncBytesAreValid xs = false)
    (e : List UInt8) : isProbe (xs ++ e) = false := by
  rw [Bool.eq_false_iff] at h ⊢
  intro hp
  apply h
  rw [pendingSyncBytesAreValid_iff]
  intro index hi hlt
  have := ((isProbe_eq_true_iff _).mp hp).2 index hi
  rwa [List.getElem?_append_left hlt] at this

/-- A full window with all its boundaries valid is a probe. -/
theorem isProbe_of_valid {xs : List UInt8} (h : pendingSyncBytesAreValid xs = true)
    (hlen : kSyncProbeSize ≤ xs.length) (e : List UInt8) : isProbe (xs ++ e) = true := by
  rw [isProbe_eq_true_iff]
  refine ⟨by simp; omega, fun index hi => ?_⟩
  have hlt : index * PKT_SIZE < xs.length := by
    rw [kSyncProbeSize_eq] at hlen
    rw [PKT_SIZE_eq]
    have : index < 4 := hi
    omega
  rw [List.getElem?_append_left hlt]
  exact (pendingSyncBytesAreValid_iff xs).mp h index hi hlt

/-- Bytes before the next sync byte start no probe. -/
theorem isProbe_drop_of_lt_findIdx {xs : List UInt8} {i : Nat} (h : i < xs.findIdx (· == SYNC_BYTE))
    (e : List UInt8) : isProbe ((xs ++ e).drop i) = false := by
  apply isProbe_of_head
  have hlt : i < xs.length := Nat.lt_of_lt_of_le h List.findIdx_le_length
  have hne := List.not_of_lt_findIdx h
  rw [List.head?_drop, List.getElem?_append_left hlt, List.getElem?_eq_getElem hlt]
  simpa using hne

/-! ## Moving on in the stream -/

theorem seekFrames_drop {xs : List UInt8} {k : Nat} (h : ∀ i, i < k → isProbe (xs.drop i) = false) :
    seekFrames xs = seekFrames (xs.drop k) := by
  unfold seekFrames
  rw [Scan.firstSuffix_drop isProbe xs k h]
  cases Scan.firstSuffix isProbe (xs.drop k) with
  | none => rfl
  | some c =>
    simp only [Option.map_some, List.drop_drop]
    rw [Nat.add_comm c k, Nat.add_assoc]

theorem initialFrames_drop (offset : Nat) {xs : List UInt8} {k : Nat}
    (h : ∀ i, i < k → isProbe (xs.drop i) = false) :
    initialFrames offset xs = initialFrames (offset + k) (xs.drop k) := by
  unfold initialFrames
  rw [Scan.firstSuffix_drop isProbe xs k h]
  cases Scan.firstSuffix isProbe (xs.drop k) with
  | none => rfl
  | some c =>
    simp only [Option.map_some, List.drop_drop]
    rw [Nat.add_comm c k, Nat.add_assoc, Nat.add_assoc]

theorem initialFrames_of_bound {offset : Nat} (h : PKT_SIZE ≤ offset) (xs : List UInt8) :
    initialFrames offset xs = [] := by
  unfold initialFrames
  split
  · rfl
  · rw [if_neg (by omega)]

/-- Nothing is owed at the stream start exactly when no probe stands below the bound. -/
theorem initialFrames_zero_eq_nil_iff (xs : List UInt8) :
    initialFrames 0 xs = [] ↔ ∀ c, c < PKT_SIZE → isProbe (xs.drop c) = false := by
  unfold initialFrames
  cases hfirst : Scan.firstSuffix isProbe xs with
  | none =>
    refine iff_of_true rfl fun c _ => ?_
    by_cases hle : c ≤ xs.length
    · exact (Scan.firstSuffix_eq_none_iff isProbe xs).mp hfirst c hle
    · apply isProbe_of_short
      rw [List.length_drop, kSyncProbeSize_eq]
      omega
  | some c =>
    obtain ⟨-, hprobe, hleast⟩ := (Scan.firstSuffix_eq_some_iff isProbe _ _).mp hfirst
    simp only [Nat.zero_add]
    split
    · next hlt =>
      constructor
      · intro hnil
        exact absurd (List.append_eq_nil_iff.mp hnil).1 (probePackets_ne_nil ((isProbe_eq_true_iff _).mp hprobe).1)
      · intro hnone
        rw [hnone c hlt] at hprobe
        cases hprobe
    · next hge => exact iff_of_true rfl fun c' hc' => hleast c' (by omega)

/-- The two searches: `initialSync` tells the bounded one, as in `feedSeekingSync`. -/
def searchFrames (initialSync : Bool) (offset : Nat) (xs : List UInt8) : List TSPacket :=
  if initialSync then initialFrames offset xs else seekFrames xs

theorem searchFrames_drop (initialSync : Bool) (offset : Nat) {xs : List UInt8} {k : Nat}
    (h : ∀ i, i < k → isProbe (xs.drop i) = false) :
    searchFrames initialSync offset xs =
      searchFrames initialSync (if initialSync then offset + k else offset) (xs.drop k) := by
  unfold searchFrames
  cases initialSync with
  | true => exact initialFrames_drop offset h
  | false => exact seekFrames_drop h

theorem firstSuffix_isProbe_of_short {xs : List UInt8} (h : xs.length < kSyncProbeSize) :
    Scan.firstSuffix isProbe xs = none := by
  rw [Scan.firstSuffix_eq_none_iff]
  intro i _
  apply isProbe_of_short
  rw [List.length_drop]
  omega

theorem seekFrames_of_short {xs : List UInt8} (h : xs.length < kSyncProbeSize) :
    seekFrames xs = [] := by
  rw [seekFrames, firstSuffix_isProbe_of_short h]

theorem initialFrames_of_short (offset : Nat) {xs : List UInt8} (h : xs.length < kSyncProbeSize) :
    initialFrames offset xs = [] := by
  rw [initialFrames, firstSuffix_isProbe_of_short h]

theorem seekFrames_of_probe {xs : List UInt8} (h : isProbe xs = true) :
    seekFrames xs = probePackets xs ++ syncedFrames (xs.drop kSyncProbeSize) := by
  rw [seekFrames, Scan.firstSuffix_of_pos _ h]
  simp

theorem initialFrames_of_probe {offset : Nat} (ho : offset < PKT_SIZE) {xs : List UInt8}
    (h : isProbe xs = true) :
    initialFrames offset xs = probePackets xs ++ syncedFrames (xs.drop kSyncProbeSize) := by
  rw [initialFrames, Scan.firstSuffix_of_pos _ h]
  simp [ho]

theorem searchFrames_of_probe (initialSync : Bool) {offset : Nat}
    (ho : initialSync = true → offset < PKT_SIZE) {xs : List UInt8} (h : isProbe xs = true) :
    searchFrames initialSync offset xs = probePackets xs ++ syncedFrames (xs.drop kSyncProbeSize) := by
  cases initialSync with
  | true => exact initialFrames_of_probe (ho rfl) h
  | false => exact seekFrames_of_probe h

/-- A boundary without a sync byte: the search starts there. -/
theorem syncedFrames_of_lost {xs : List UInt8} (h : xs.head? ≠ some SYNC_BYTE) :
    syncedFrames xs = seekFrames xs := by
  cases xs with
  | nil => rw [syncedFrames, seekFrames_of_short (by simp [kSyncProbeSize_eq])]
  | cons b rest =>
    rw [syncedFrames, if_neg (by simpa using h)]
    rfl

theorem syncedFrames_of_short {xs : List UInt8} (h : xs.length < PKT_SIZE) : syncedFrames xs = [] := by
  by_cases hh : xs.head? = some SYNC_BYTE
  · cases xs with
    | nil => rw [syncedFrames]
    | cons b rest =>
      rw [syncedFrames, if_pos (by simpa using hh), packet?_of_lt h]
  · rw [syncedFrames_of_lost hh]
    apply seekFrames_of_short
    rw [PKT_SIZE_eq] at h
    rw [kSyncProbeSize_eq]
    omega

theorem syncedFrames_of_packet {xs : List UInt8} (hh : xs.head? = some SYNC_BYTE) {packet : TSPacket}
    (hp : packet? xs = some packet) : syncedFrames xs = packet :: syncedFrames (xs.drop PKT_SIZE) := by
  cases xs with
  | nil => cases hh
  | cons b rest => rw [syncedFrames, if_pos (by simpa using hh), hp]

end AribcapDump
