import AribcapDump.Framer.Verdict

/-!
# Packets are slices of the input

Whatever is lost or searched for, every packet stands in the input at a sync
byte, after the packets handed over before it and in none of them.

* `CutFrom`: packets that stand so in some bytes.
* `frames_cutFrom`: those that a framer owes for them.
* `packets_cutFrom`: those of every read.
-/

namespace AribcapDump

/-- The packets stand in the bytes, one after the other, each at a sync byte. -/
inductive CutFrom : List TSPacket → List UInt8 → Prop
  | done (xs : List UInt8) : CutFrom [] xs
  | skip (b : UInt8) {packets : List TSPacket} {xs : List UInt8} : CutFrom packets xs → CutFrom packets (b :: xs)
  | packet {packet : TSPacket} {packets : List TSPacket} {xs : List UInt8} :
      packet.b.head? = some SYNC_BYTE → CutFrom packets xs → CutFrom (packet :: packets) (packet.b ++ xs)

variable {packets packets' : List TSPacket} {xs : List UInt8}

namespace CutFrom

theorem of_drop {k : ℕ} (h : CutFrom packets (xs.drop k)) : CutFrom packets xs := by
  induction k generalizing xs with
  | zero => exact h
  | succ k ih =>
    cases xs with
    | nil => exact h
    | cons b xs => exact .skip b (ih h)

theorem of_firstPart (h : CutFrom packets xs) (hpart : packets' <+: packets) : CutFrom packets' xs := by
  induction h generalizing packets' with
  | done xs =>
    rw [List.prefix_nil.mp hpart]
    exact .done xs
  | skip b _ ih => exact .skip b (ih hpart)
  | packet hsync _ ih =>
    cases packets' with
    | nil => exact .done _
    | cons packet' packets' =>
      obtain ⟨rfl, htail⟩ := List.cons_prefix_cons.mp hpart
      exact .packet hsync (ih htail)

/-- The bytes of the packets are among the bytes, in their order. -/
theorem sublist (h : CutFrom packets xs) : (packets.flatMap TSPacket.b).Sublist xs := by
  induction h with
  | done xs => exact List.nil_sublist xs
  | skip b _ ih => exact ih.cons b
  | packet _ _ ih =>
    rw [List.flatMap_cons]
    exact ih.append_left _

theorem startsWithSync (h : CutFrom packets xs) : ∀ packet ∈ packets, packet.b.head? = some SYNC_BYTE := by
  induction h with
  | done xs => exact fun _ hmem => (by cases hmem)
  | skip b _ ih => exact ih
  | packet hsync _ ih =>
    intro packet hmem
    rcases List.mem_cons.mp hmem with rfl | hmem
    · exact hsync
    · exact ih packet hmem

theorem length_le (h : CutFrom packets xs) : PKT_SIZE * packets.length ≤ xs.length := by
  induction h with
  | done xs => exact Nat.zero_le _
  | skip b _ ih => exact Nat.le_succ_of_le ih
  | @packet packet _ _ _ _ ih =>
    rw [List.length_append, packet.size_eq, List.length_cons, Nat.mul_succ]
    omega

/-- The packet at the front. -/
theorem cons {packet : TSPacket} (hpacket : packet? xs = some packet) (hsync : xs.head? = some SYNC_BYTE)
    (h : CutFrom packets (xs.drop PKT_SIZE)) : CutFrom (packet :: packets) xs := by
  unfold packet? at hpacket
  split at hpacket
  · cases hpacket
    have hhead : (xs.take PKT_SIZE).head? = some SYNC_BYTE := by
      rw [List.head?_take, if_neg (by decide), hsync]
    conv => rhs; rw [← List.take_append_drop PKT_SIZE xs]
    exact .packet hhead h
  · cases hpacket

/-- The last packets of a probe. -/
theorem of_probe_from (hprobe : isProbe xs = true) (h : CutFrom packets (xs.drop kSyncProbeSize)) {index count : ℕ}
    (hcount : index + count = kSyncProbePackets) :
    CutFrom (((List.range' index count).filterMap fun index => packet? (xs.drop (index * PKT_SIZE))) ++ packets)
      (xs.drop (index * PKT_SIZE)) := by
  obtain ⟨hsize, hsync⟩ := (isProbe_eq_true_iff xs).mp hprobe
  rw [kSyncProbeSize_eq] at hsize
  induction count generalizing index with
  | zero =>
    have hend : index * PKT_SIZE = kSyncProbeSize := by
      rw [show index = 4 from hcount]
      rfl
    rw [hend]
    exact h
  | succ count ih =>
    have hindex : index < 4 := by
      unfold kSyncProbePackets at hcount
      omega
    have hleft : PKT_SIZE ≤ (xs.drop (index * PKT_SIZE)).length := by
      rw [List.length_drop, PKT_SIZE_eq]
      omega
    have hpacket := packet?_of_le hleft
    rw [List.range'_succ, List.filterMap_cons, hpacket]
    refine cons hpacket ?_ ?_
    · rw [List.head?_drop]
      exact hsync index hindex
    · rw [List.drop_drop, ← Nat.succ_mul]
      exact ih (by omega)

/-- The packets of a probe. -/
theorem of_probe (hprobe : isProbe xs = true) (h : CutFrom packets (xs.drop kSyncProbeSize)) :
    CutFrom (probePackets xs ++ packets) xs := by
  unfold probePackets
  rw [List.range_eq_range']
  have hfrom := of_probe_from hprobe h (Nat.zero_add kSyncProbePackets)
  rwa [Nat.zero_mul, List.drop_zero] at hfrom

end CutFrom

/-! ## What a framer owes -/

/-- The packets from a probe that was searched for. -/
theorem cutFrom_of_firstSuffix {c : ℕ} (hfirst : Scan.firstSuffix isProbe xs = some c)
    (h : CutFrom packets (xs.drop (c + kSyncProbeSize))) : CutFrom (probePackets (xs.drop c) ++ packets) xs := by
  obtain ⟨-, hprobe, -⟩ := (Scan.firstSuffix_eq_some_iff isProbe _ _).mp hfirst
  refine (CutFrom.of_probe hprobe ?_).of_drop
  rwa [List.drop_drop]

theorem syncedFrames_cutFrom (xs : List UInt8) : CutFrom (syncedFrames xs) xs := by
  fun_induction syncedFrames xs with
  | case1 => exact .done _
  | case2 rest hnone => exact .done _
  | case3 rest packet hpacket ih => exact .cons hpacket rfl ih
  | case4 b rest hb hnone => exact .done _
  | case5 b rest hb c hfirst ih => exact cutFrom_of_firstSuffix hfirst ih

theorem seekFrames_cutFrom (xs : List UInt8) : CutFrom (seekFrames xs) xs := by
  unfold seekFrames
  split
  · exact .done _
  · next hfirst => exact cutFrom_of_firstSuffix hfirst (syncedFrames_cutFrom _)

theorem initialFrames_cutFrom (offset : ℕ) (xs : List UInt8) : CutFrom (initialFrames offset xs) xs := by
  unfold initialFrames
  split
  · exact .done _
  · next hfirst =>
    split
    · exact cutFrom_of_firstSuffix hfirst (syncedFrames_cutFrom _)
    · exact .done _

theorem frames_cutFrom (f : PacketFramer) (e : List UInt8) : CutFrom (f.frames e) (f.pending ++ e) := by
  unfold PacketFramer.frames
  cases f.mode with
  | initialSync => exact initialFrames_cutFrom _ _
  | seekingSync => exact seekFrames_cutFrom _
  | synced => exact syncedFrames_cutFrom _

/-- **Every packet is a slice of the input.**  For every reader and handler, the packets handed over stand in the bytes
received at sync bytes, one after the other: nothing is handed over twice or made up. -/
theorem packets_cutFrom {σ : Type} (onPacket : PacketHandler σ) (s : σ) (reader : ByteReader) :
    ∃ status world, readAndFramePackets onPacket reader s = .ok (status, world) ∧
      CutFrom world.packets (received reader).1 ∧
      (∀ packet ∈ world.packets, packet.b.head? = some SYNC_BYTE) ∧
      (world.packets.flatMap TSPacket.b).Sublist (received reader).1 ∧
      PKT_SIZE * world.packets.length ≤ (received reader).1.length := by
  obtain ⟨status, hread, -⟩ := readAndFramePackets_verdict onPacket s reader
  have hcut : CutFrom (deliver onPacket ⟨s, []⟩ (PacketFramer.frames {} (received reader).1)).1.packets
      (received reader).1 := (frames_cutFrom {} (received reader).1).of_firstPart (Offer.offer_handed_prefix onPacket s _)
  exact ⟨status, _, hread, hcut, hcut.startsWithSync, hcut.sublist, hcut.length_le⟩

end AribcapDump
