import AribcapDump.Framer.Chunks

/-!
# Finding the packets again

A train is a run of packets that all start with a sync byte.  A framer that is in
step with a train delivers it; one that is not gets in step with it, wherever the
bytes before the train left it.

* `framing_roundTrip`: a train at the stream start, after some bytes without a probe, is delivered as it is.
* `synced_inside`: a framer out of step with a train falls out of it before the fourth packet.
* `resynchronises`: after any bytes, all of a train but at most its first four packets is delivered.
-/

namespace AribcapDump

/-- The bytes of the packets. -/
def bytesOf (packets : List TSPacket) : List UInt8 := packets.flatMap TSPacket.b

def StartsWithSync (packets : List TSPacket) : Prop := ∀ packet ∈ packets, packet.b.head? = some SYNC_BYTE

instance (packets : List TSPacket) : Decidable (StartsWithSync packets) := List.decidableBAll _ packets

/-- A train long enough to be found, in which four sync bytes stand 188 apart at the packet boundaries only. -/
structure CleanTrain (train : List TSPacket) : Prop where
  sync : StartsWithSync train
  long : 8 ≤ train.length
  clean : ∀ o, o % PKT_SIZE ≠ 0 → isProbe ((bytesOf train).drop o) = false

/-! ## Trains -/

theorem bytesOf_cons (packet : TSPacket) (packets : List TSPacket) :
    bytesOf (packet :: packets) = packet.b ++ bytesOf packets := List.flatMap_cons

theorem length_bytesOf (packets : List TSPacket) : (bytesOf packets).length = PKT_SIZE * packets.length := by
  induction packets with
  | nil => rfl
  | cons packet packets ih =>
    rw [bytesOf_cons, List.length_append, packet.size_eq, ih, List.length_cons, Nat.mul_succ, Nat.add_comm]

theorem drop_bytesOf (packets : List TSPacket) (m : ℕ) :
    (bytesOf packets).drop (PKT_SIZE * m) = bytesOf (packets.drop m) := by
  induction m generalizing packets with
  | zero => rfl
  | succ m ih =>
    cases packets with
    | nil => simp [bytesOf]
    | cons packet packets =>
      have hfirst : (bytesOf (packet :: packets)).drop PKT_SIZE = bytesOf packets := by
        rw [bytesOf_cons, List.drop_left' packet.size_eq]
      rw [List.drop_succ_cons, ← ih, ← hfirst, List.drop_drop, Nat.mul_succ, Nat.add_comm]

theorem packet?_bytesOf (packet : TSPacket) (packets : List TSPacket) (e : List UInt8) :
    packet? (bytesOf (packet :: packets) ++ e) = some packet := by
  have hsize : packet.b.length = PKT_SIZE := packet.size_eq
  rw [bytesOf_cons, List.append_assoc, packet?_of_le (by simp [hsize])]
  simp only [List.take_left' hsize]

/-- A boundary of a train and what stands from there on. -/
theorem drop_train (packets : List TSPacket) {m : ℕ} (hm : m ≤ packets.length) (e : List UInt8) :
    (bytesOf packets ++ e).drop (PKT_SIZE * m) = bytesOf (packets.drop m) ++ e := by
  rw [List.drop_append_of_le_length (by rw [length_bytesOf]; exact Nat.mul_le_mul_left _ hm), drop_bytesOf]

theorem head?_bytesOf {packets : List TSPacket} (hsync : StartsWithSync packets) (hne : packets ≠ []) (e : List UInt8) :
    (bytesOf packets ++ e).head? = some SYNC_BYTE := by
  obtain ⟨packet, rest, rfl⟩ := List.exists_cons_of_ne_nil hne
  have hhead := hsync packet List.mem_cons_self
  rw [bytesOf_cons]
  cases hb : packet.b with
  | nil => simp [hb] at hhead
  | cons b bs => simpa [hb] using hhead

theorem isProbe_bytesOf {packets : List TSPacket} (hsync : StartsWithSync packets) (hlen : 4 ≤ packets.length)
    (e : List UInt8) : isProbe (bytesOf packets ++ e) = true := by
  rw [isProbe_eq_true_iff]
  constructor
  · rw [List.length_append, length_bytesOf, kSyncProbeSize_eq, PKT_SIZE_eq]
    omega
  · intro index hindex
    have hi : index < 4 := hindex
    rw [← List.head?_drop, Nat.mul_comm, drop_train packets (by omega)]
    refine head?_bytesOf (fun packet hmem => hsync packet (List.mem_of_mem_drop hmem)) ?_ e
    rw [ne_eq, List.drop_eq_nil_iff]
    omega

theorem probePackets_bytesOf {packets : List TSPacket} (hlen : 4 ≤ packets.length) (e : List UInt8) :
    probePackets (bytesOf packets ++ e) = packets.take 4 := by
  have hpacket : ∀ index < 4, packet? ((bytesOf packets ++ e).drop (index * PKT_SIZE)) = packets[index]? := by
    intro index hindex
    have hlt : index < packets.length := by omega
    rw [Nat.mul_comm, drop_train packets (by omega), List.drop_eq_getElem_cons hlt, packet?_bytesOf,
      List.getElem?_eq_getElem hlt]
  unfold probePackets kSyncProbePackets
  rw [List.filterMap_congr fun index hindex => hpacket index (List.mem_range.mp hindex)]
  clear hpacket
  rcases packets with _ | ⟨first, _ | ⟨second, _ | ⟨third, _ | ⟨fourth, rest⟩⟩⟩⟩ <;> rfl

/-- A framer in step with a train delivers it. -/
theorem syncedFrames_bytesOf {packets : List TSPacket} (hsync : StartsWithSync packets) (e : List UInt8) :
    syncedFrames (bytesOf packets ++ e) = packets ++ syncedFrames e := by
  induction packets with
  | nil => rfl
  | cons packet packets ih =>
    have hdrop := drop_train (packet :: packets) (m := 1) (by simp) e
    rw [Nat.mul_one, List.drop_succ_cons, List.drop_zero] at hdrop
    rw [syncedFrames_of_packet (head?_bytesOf hsync (by simp) e) (packet?_bytesOf packet packets e), hdrop,
      ih fun p hp => hsync p (List.mem_cons_of_mem _ hp), List.cons_append]

/-- A framer that searches finds a train it stands before. -/
theorem seekFrames_bytesOf {packets : List TSPacket} (hsync : StartsWithSync packets) (hlen : 4 ≤ packets.length)
    (e : List UInt8) : seekFrames (bytesOf packets ++ e) = packets ++ syncedFrames e := by
  have hdrop : (bytesOf packets ++ e).drop kSyncProbeSize = bytesOf (packets.drop 4) ++ e := drop_train packets hlen e
  rw [seekFrames_of_probe (isProbe_bytesOf hsync hlen e), probePackets_bytesOf hlen, hdrop,
    syncedFrames_bytesOf fun packet hmem => hsync packet (List.mem_of_mem_drop hmem), ← List.append_assoc,
    List.take_append_drop]

/-! ## Out of step -/

theorem isProbe_append {xs : List UInt8} (h : kSyncProbeSize ≤ xs.length) (e : List UInt8) :
    isProbe (xs ++ e) = isProbe xs := by
  have hat : ∀ index < kSyncProbePackets, (xs ++ e)[index * PKT_SIZE]? = xs[index * PKT_SIZE]? := by
    intro index hindex
    have hi : index < 4 := hindex
    rw [kSyncProbeSize_eq] at h
    exact List.getElem?_append_left (by rw [PKT_SIZE_eq]; omega)
  rw [Bool.eq_iff_iff, isProbe_eq_true_iff, isProbe_eq_true_iff]
  constructor
  · rintro ⟨-, hall⟩
    exact ⟨h, fun index hindex => hat index hindex ▸ hall index hindex⟩
  · rintro ⟨-, hall⟩
    exact ⟨by rw [List.length_append]; omega, fun index hindex => (hat index hindex).trans (hall index hindex)⟩

section
variable {train : List TSPacket} (ht : CleanTrain train)
include ht

theorem CleanTrain.length_ge : 1504 ≤ (bytesOf train).length := by
  have hlong := ht.long
  rw [length_bytesOf, PKT_SIZE_eq]
  omega

/-- A search that starts in the first four packets of a train finds the next boundary. -/
theorem seek_inside {o : ℕ} (ho : o ≤ kSyncProbeSize) (e : List UInt8) :
    seekFrames ((bytesOf train).drop o ++ e) = train.drop ((o + 187) / 188) ++ syncedFrames e := by
  have hlong := ht.long
  have hlen := ht.length_ge
  rw [kSyncProbeSize_eq] at ho
  have hskip : ∀ i < 188 * ((o + 187) / 188) - o, isProbe (((bytesOf train).drop o ++ e).drop i) = false := by
    intro i hi
    rw [List.drop_append_of_le_length (by rw [List.length_drop]; omega), List.drop_drop,
      isProbe_append (by rw [List.length_drop, kSyncProbeSize_eq]; omega)]
    exact ht.clean _ (by rw [PKT_SIZE_eq]; omega)
  have hboundary : ((bytesOf train).drop o ++ e).drop (188 * ((o + 187) / 188) - o) =
      bytesOf (train.drop ((o + 187) / 188)) ++ e := by
    rw [List.drop_append_of_le_length (by rw [List.length_drop]; omega), List.drop_drop, ← drop_bytesOf, PKT_SIZE_eq]
    congr 2
    omega
  rw [seekFrames_drop hskip, hboundary,
    seekFrames_bytesOf (fun packet hmem => ht.sync packet (List.mem_of_mem_drop hmem)) (by rw [List.length_drop]; omega)]

/-- **Out of step**: three packets may start with a sync byte by accident, a fourth cannot. -/
theorem synced_inside {o : ℕ} (hpos : 0 < o) (hlt : o < 188) {j : ℕ} (hj : j ≤ 4)
    (hhits : ∀ i < j, (bytesOf train)[o + 188 * i]? = some SYNC_BYTE) :
    ∃ lead k, k ≤ 4 ∧ ∀ e,
      syncedFrames ((bytesOf train).drop (o + 188 * j) ++ e) = lead ++ train.drop k ++ syncedFrames e := by
  have hlen := ht.length_ge
  induction hd : 4 - j generalizing j with
  | zero =>
    obtain rfl : j = 4 := by omega
    have hprobe : isProbe ((bytesOf train).drop o) = true := by
      rw [isProbe_eq_true_iff]
      refine ⟨by rw [List.length_drop, kSyncProbeSize_eq]; omega, fun index hindex => ?_⟩
      rw [List.getElem?_drop, PKT_SIZE_eq, Nat.mul_comm]
      exact hhits index hindex
    rw [ht.clean o (by rw [PKT_SIZE_eq]; omega)] at hprobe
    cases hprobe
  | succ d ih =>
    have hhead : ∀ e, ((bytesOf train).drop (o + 188 * j) ++ e).head? = (bytesOf train)[o + 188 * j]? := by
      intro e
      rw [List.head?_append_of_ne_nil _ (by rw [ne_eq, List.drop_eq_nil_iff]; omega), List.head?_drop]
    by_cases hhit : (bytesOf train)[o + 188 * j]? = some SYNC_BYTE
    · have hsize : PKT_SIZE ≤ ((bytesOf train).drop (o + 188 * j)).length := by
        rw [List.length_drop, PKT_SIZE_eq]
        omega
      have hnext : ∀ i < j + 1, (bytesOf train)[o + 188 * i]? = some SYNC_BYTE := by
        intro i hi
        rcases Nat.lt_succ_iff_lt_or_eq.mp hi with hlt | rfl
        · exact hhits i hlt
        · exact hhit
      obtain ⟨lead, k, hk, hframes⟩ := ih (by omega) hnext (by omega)
      refine ⟨⟨((bytesOf train).drop (o + 188 * j)).take PKT_SIZE, List.length_take_of_le hsize⟩ :: lead, k, hk,
        fun e => ?_⟩
      rw [syncedFrames_of_packet ((hhead e).trans hhit) ((packet?_append hsize e).trans (packet?_of_le hsize)),
        List.drop_append_of_le_length hsize, List.drop_drop]
      have hstep : o + 188 * j + PKT_SIZE = o + 188 * (j + 1) := by rw [PKT_SIZE_eq]; omega
      rw [hstep, hframes]
      rfl
    · refine ⟨[], (o + 188 * j + 187) / 188, by omega, fun e => ?_⟩
      rw [syncedFrames_of_lost (by rw [hhead]; exact hhit), seek_inside ht (by rw [kSyncProbeSize_eq]; omega)]
      rfl

/-- All of a train but at most its first four packets is found by `frames`, whatever follows it. -/
def Recovers (train : List TSPacket) (frames : List UInt8 → List TSPacket) (before : List UInt8) : Prop :=
  ∃ lead k, k ≤ 4 ∧ ∀ e, frames (before ++ bytesOf train ++ e) = lead ++ train.drop k ++ syncedFrames e

omit ht in
/-- Packets before a recovery. -/
theorem Recovers.cons {frames : List UInt8 → List TSPacket} {before before' : List UInt8}
    (h : Recovers train syncedFrames before') (packets : List TSPacket)
    (hframes : ∀ e, frames (before ++ bytesOf train ++ e) =
      packets ++ syncedFrames (before' ++ bytesOf train ++ e)) : Recovers train frames before := by
  obtain ⟨lead, k, hk, hrest⟩ := h
  refine ⟨packets ++ lead, k, hk, fun e => ?_⟩
  rw [hframes, hrest, List.append_assoc, List.append_assoc, List.append_assoc]

/-- The bytes before the train that a search leaves unread, or how far into the train it gets. -/
theorem recovers_of_search {before : List UInt8}
    (ih : ∀ before' : List UInt8, before'.length < before.length → Recovers train syncedFrames before') :
    Recovers train seekFrames before := by
  have hlong := ht.long
  have hlen := ht.length_ge
  have hhere : isProbe ((before ++ bytesOf train).drop before.length) = true := by
    rw [List.drop_left, ← List.append_nil (bytesOf train)]
    exact isProbe_bytesOf ht.sync (by omega) []
  -- the first probe stands before the train or at its start
  obtain ⟨c, hc⟩ : ∃ c, Scan.firstSuffix isProbe (before ++ bytesOf train) = some c := by
    rw [← Option.isSome_iff_exists, Option.isSome_iff_ne_none]
    intro hnone
    rw [(Scan.firstSuffix_eq_none_iff isProbe _).mp hnone before.length (by simp)] at hhere
    cases hhere
  obtain ⟨-, hprobe, hleast⟩ := (Scan.firstSuffix_eq_some_iff isProbe _ _).mp hc
  have hle : c ≤ before.length := by
    by_contra hlt
    rw [hleast before.length (by omega)] at hhere
    cases hhere
  have hframes : ∀ e, seekFrames (before ++ bytesOf train ++ e) =
      probePackets ((before ++ bytesOf train).drop c) ++
        syncedFrames ((before ++ bytesOf train).drop (c + kSyncProbeSize) ++ e) := by
    intro e
    have hsize : kSyncProbeSize ≤ ((before ++ bytesOf train).drop c).length := by
      rw [List.length_drop, List.length_append, kSyncProbeSize_eq]
      omega
    have hskip : ∀ i < c, isProbe ((before ++ bytesOf train ++ e).drop i) = false := by
      intro i hi
      rw [List.drop_append_of_le_length (by rw [List.length_append]; omega), isProbe_append
        (by rw [List.length_drop, List.length_append, kSyncProbeSize_eq]; omega)]
      exact hleast i hi
    rw [seekFrames_drop hskip, List.drop_append_of_le_length (by rw [List.length_append]; omega),
      seekFrames_of_probe (by rw [isProbe_append hsize, hprobe]), probePackets_append hsize,
      List.drop_append_of_le_length hsize, List.drop_drop]
  by_cases hin : c + kSyncProbeSize ≤ before.length
  · refine (ih (before.drop (c + kSyncProbeSize)) ?_).cons (probePackets ((before ++ bytesOf train).drop c)) fun e => ?_
    · rw [List.length_drop, kSyncProbeSize_eq] at *
      omega
    · rw [hframes, List.drop_append_of_le_length hin]
  · rw [kSyncProbeSize_eq] at hin
    obtain ⟨o, ho⟩ : ∃ o, c + 752 = before.length + o := ⟨c + 752 - before.length, by omega⟩
    have hrest : (before ++ bytesOf train).drop (c + kSyncProbeSize) = (bytesOf train).drop o := by
      rw [kSyncProbeSize_eq, ho, List.drop_append, List.drop_of_length_le (by omega), List.nil_append]
      congr 1
      omega
    by_cases haligned : o % 188 = 0
    · have hboundary : (bytesOf train).drop o = bytesOf (train.drop (o / 188)) := by
        rw [← drop_bytesOf, PKT_SIZE_eq]
        congr 1
        omega
      refine ⟨probePackets ((before ++ bytesOf train).drop c), o / 188, by omega, fun e => ?_⟩
      rw [hframes, hrest, hboundary, syncedFrames_bytesOf fun packet hmem => ht.sync packet (List.mem_of_mem_drop hmem),
        List.append_assoc]
    · -- the last sync bytes of the probe stand in the train
      have hhits : ∀ i < o / 188, (bytesOf train)[o % 188 + 188 * i]? = some SYNC_BYTE := by
        intro i hi
        have hat := ((isProbe_eq_true_iff _).mp hprobe).2 (4 - o / 188 + i) (by unfold kSyncProbePackets; omega)
        rw [List.getElem?_drop, PKT_SIZE_eq, List.getElem?_append_right (by omega)] at hat
        rw [← hat]
        congr 1
        omega
      obtain ⟨lead, k, hk, hinside⟩ := synced_inside ht (Nat.pos_of_ne_zero haligned) (Nat.mod_lt _ (by decide))
        (by omega) hhits
      refine ⟨probePackets ((before ++ bytesOf train).drop c) ++ lead, k, hk, fun e => ?_⟩
      rw [hframes, hrest, ← Nat.mod_add_div o 188, hinside, List.append_assoc, List.append_assoc, List.append_assoc]

/-- A framer in step with something else, or searching, gets in step with the train. -/
theorem recovers_synced (before : List UInt8) : Recovers train syncedFrames before := by
  have hlen := ht.length_ge
  induction hn : before.length using Nat.strongRecOn generalizing before with
  | ind n ih =>
    cases before with
    | nil => exact ⟨[], 0, by omega, fun e => syncedFrames_bytesOf ht.sync e⟩
    | cons b rest =>
      have hshorter : ∀ before' : List UInt8, before'.length < (b :: rest).length → Recovers train syncedFrames before' :=
        fun before' h => ih before'.length (hn ▸ h) before' rfl
      by_cases hb : b = SYNC_BYTE
      · have hsize : PKT_SIZE ≤ (b :: rest ++ bytesOf train).length := by
          rw [List.length_append, PKT_SIZE_eq]
          omega
        obtain ⟨packet, hframes⟩ : ∃ packet, ∀ e, syncedFrames (b :: rest ++ bytesOf train ++ e) =
            [packet] ++ syncedFrames ((b :: rest ++ bytesOf train).drop PKT_SIZE ++ e) := by
          refine ⟨⟨(b :: rest ++ bytesOf train).take PKT_SIZE, List.length_take_of_le hsize⟩, fun e => ?_⟩
          rw [syncedFrames_of_packet (by simp [hb]) ((packet?_append hsize e).trans (packet?_of_le hsize)),
            List.drop_append_of_le_length hsize]
          rfl
        by_cases hin : PKT_SIZE ≤ (b :: rest).length
        · refine (hshorter ((b :: rest).drop PKT_SIZE) ?_).cons [packet] fun e => ?_
          · rw [List.length_drop, PKT_SIZE_eq, List.length_cons]
            omega
          · rw [hframes, List.drop_append_of_le_length hin]
        · rw [PKT_SIZE_eq] at hin
          have hrest : (b :: rest ++ bytesOf train).drop PKT_SIZE = (bytesOf train).drop (188 - (b :: rest).length) := by
            rw [PKT_SIZE_eq, List.drop_append, List.drop_of_length_le (by omega), List.nil_append]
          obtain ⟨lead, k, hk, hinside⟩ := synced_inside ht (o := 188 - (b :: rest).length) (j := 0) (by omega)
            (by rw [List.length_cons]; omega) (by omega) (by omega)
          refine ⟨packet :: lead, k, hk, fun e => ?_⟩
          rw [hframes, hrest]
          simpa using hinside e
      · obtain ⟨lead, k, hk, hfound⟩ := recovers_of_search ht hshorter
        refine ⟨lead, k, hk, fun e => ?_⟩
        rw [syncedFrames_of_lost (by simpa using hb), hfound]

theorem recovers_seek (before : List UInt8) : Recovers train seekFrames before :=
  recovers_of_search ht fun before' _ => recovers_synced ht before'

end

/-- A fresh framer finds the packets of a stream, after fewer than 188 bytes in which no probe starts. -/
theorem frames_fresh_bytesOf {junk : List UInt8} {packets : List TSPacket} (hsync : StartsWithSync packets)
    (hlen : 4 ≤ packets.length) (hjunk : junk.length < PKT_SIZE)
    (hquiet : ∀ i < junk.length, isProbe ((junk ++ bytesOf packets).drop i) = false) (e : List UInt8) :
    PacketFramer.frames {} (junk ++ bytesOf packets ++ e) = packets ++ syncedFrames e := by
  have hskip : ∀ i < junk.length, isProbe ((junk ++ bytesOf packets ++ e).drop i) = false := by
    intro i hi
    have hsize : kSyncProbeSize ≤ ((junk ++ bytesOf packets).drop i).length := by
      rw [List.length_drop, List.length_append, length_bytesOf, PKT_SIZE_eq, kSyncProbeSize_eq]
      omega
    rw [List.drop_append_of_le_length (by rw [List.length_append]; omega), isProbe_append hsize, hquiet i hi]
  have hstart : PacketFramer.frames {} (junk ++ bytesOf packets ++ e) =
      initialFrames 0 (junk ++ bytesOf packets ++ e) := rfl
  rw [hstart, initialFrames_drop 0 hskip, List.append_assoc, List.drop_left,
    initialFrames_of_probe (by omega) (isProbe_bytesOf hsync hlen e), ← seekFrames_of_probe (isProbe_bytesOf hsync hlen e),
    seekFrames_bytesOf hsync hlen]

/-! ## Top theorems -/

section
variable {σ : Type} {onPacket : PacketHandler σ} (hacc : ∀ s p, (onPacket s p).2 = true)
include hacc

/-- Feeding bytes of which all packets are known, whatever follows them: the framer is in step then. -/
theorem feedChunks_of_frames {f : PacketFramer} (hf : f.Good) {data : List UInt8} {packets : List TSPacket}
    (hframes : ∀ e, f.frames (data ++ e) = packets ++ syncedFrames e) (hne : packets ≠ [])
    {chunks : List (List UInt8)} (hflat : chunks.flatten = data) (w : Deliveries σ) :
    ∃ out, feedChunks onPacket f chunks w = .ok out ∧ out.ok = true ∧ out.world.packets = w.packets ++ packets ∧
      ∀ e, out.framer.frames e = syncedFrames e := by
  obtain ⟨out, hout, hspec⟩ := feedChunks_spec onPacket hf chunks w
  have hnow : f.frames data = packets := by
    have hnone : syncedFrames [] = [] := by rw [syncedFrames]
    simpa [hnone] using hframes []
  rw [hflat] at hspec
  refine ⟨out, hout, ?_⟩
  cases hspec with
  | accepted f' _ _ _ hfr _ =>
    refine ⟨rfl, ?_, fun e => ?_⟩
    · rw [(deliver_of_forall hacc _ _).2, hnow]
    · have hboth := (hfr e).symm.trans (hframes e)
      rw [hnow] at hboth
      exact List.append_cancel_left hboth
  | refused f' _ _ href =>
    rw [(deliver_of_forall hacc _ _).1] at href
    cases href
  | noSync f' _ _ hfr =>
    have hnil := hfr []
    rw [List.append_nil, hnow] at hnil
    exact absurd hnil hne

/-- **The packets of a stream** are delivered as they are to a handler that accepts them all: four or more, after fewer
than 188 bytes in which no probe starts, in any chunks. -/
theorem framing_roundTrip {junk : List UInt8} {packets : List TSPacket} (hsync : StartsWithSync packets)
    (hlen : 4 ≤ packets.length) (hjunk : junk.length < PKT_SIZE)
    (hquiet : ∀ i < junk.length, isProbe ((junk ++ bytesOf packets).drop i) = false) {chunks : List (List UInt8)}
    (hflat : chunks.flatten = junk ++ bytesOf packets) (w : Deliveries σ) :
    ∃ out, feedChunks onPacket {} chunks w = .ok out ∧ out.ok = true ∧ out.world.packets = w.packets ++ packets ∧
      ∀ e, out.framer.frames e = syncedFrames e :=
  feedChunks_of_frames hacc good_fresh (frames_fresh_bytesOf hsync hlen hjunk hquiet) (by rintro rfl; simp at hlen) hflat w

/-- **The framer finds the packets again.**  Whatever bytes it is fed after it was in step once, a clean train that
follows is delivered but for at most its first four packets, to a handler that accepts them all, and then the framer is
in step. -/
theorem resynchronises {f : PacketFramer} (hf : Reachable f) (hmode : f.mode ≠ .initialSync) {train : List TSPacket}
    (htrain : CleanTrain train) {junk : List UInt8} {chunks : List (List UInt8)}
    (hflat : chunks.flatten = junk ++ bytesOf train) (w : Deliveries σ) :
    ∃ out lead k, feedChunks onPacket f chunks w = .ok out ∧ out.ok = true ∧ k ≤ 4 ∧
      out.world.packets = w.packets ++ lead ++ train.drop k ∧ ∀ e, out.framer.frames e = syncedFrames e := by
  have hlong := htrain.long
  have hfound : ∃ lead k, k ≤ 4 ∧
      ∀ e, f.frames (junk ++ bytesOf train ++ e) = lead ++ train.drop k ++ syncedFrames e := by
    unfold PacketFramer.frames
    simp only [← List.append_assoc]
    cases hm : f.mode with
    | initialSync => exact absurd hm hmode
    | seekingSync => exact recovers_seek htrain (f.pending ++ junk)
    | synced => exact recovers_synced htrain (f.pending ++ junk)
  obtain ⟨lead, k, hk, hframes⟩ := hfound
  have hne : lead ++ train.drop k ≠ [] := by
    rw [ne_eq, List.append_eq_nil_iff, List.drop_eq_nil_iff]
    omega
  obtain ⟨out, hout, hok, hpackets, hstep⟩ := feedChunks_of_frames hacc hf.good hframes hne hflat w
  exact ⟨out, lead, k, hout, hok, hk, by rw [hpackets, List.append_assoc], hstep⟩

end

/-! ## Null packets -/

/-- A sync byte and 187 zeros. -/
def zeroPacket : TSPacket := ⟨SYNC_BYTE :: List.replicate 187 0, by rw [List.length_cons, List.length_replicate]; rfl⟩

def zeroPackets (n : ℕ) : List TSPacket := List.replicate n zeroPacket

theorem startsWithSync_zeroPackets (n : ℕ) : StartsWithSync (zeroPackets n) := by
  intro packet hmem
  rw [List.eq_of_mem_replicate hmem]
  rfl

theorem getElem?_zeroPackets (n o : ℕ) (ho : o % 188 ≠ 0) : (bytesOf (zeroPackets n))[o]? ≠ some SYNC_BYTE := by
  induction n generalizing o with
  | zero => simp [zeroPackets, bytesOf]
  | succ n ih =>
    have hsize : zeroPacket.b.length = 188 := zeroPacket.size_eq
    have hcons : bytesOf (zeroPackets (n + 1)) = zeroPacket.b ++ bytesOf (zeroPackets n) := bytesOf_cons _ _
    rw [hcons]
    by_cases hlt : o < 188
    · obtain ⟨i, rfl⟩ := Nat.exists_eq_succ_of_ne_zero (show o ≠ 0 by omega)
      have hzero : zeroPacket.b[i + 1]? = some 0 := by
        show (List.replicate 187 (0 : UInt8))[i]? = some 0
        rw [List.getElem?_replicate, if_pos (by omega)]
      rw [List.getElem?_append_left (by omega), hzero]
      decide
    · rw [List.getElem?_append_right (by omega), hsize]
      exact ih (o - 188) (by omega)

theorem cleanTrain_zeroPackets : CleanTrain (zeroPackets 8) where
  sync := startsWithSync_zeroPackets 8
  long := by decide
  clean := by
    intro o ho
    apply isProbe_of_head
    rw [List.head?_drop]
    exact getElem?_zeroPackets 8 o ho

theorem isProbe_before_zeroPackets :
    ∀ i < [SYNC_BYTE, 0].length, isProbe (([SYNC_BYTE, 0] ++ bytesOf (zeroPackets 4)).drop i) = false := by
  intro i hi
  have hi2 : i < 2 := hi
  have hprobe : ∀ xs : List UInt8, xs[188]? ≠ some SYNC_BYTE → isProbe xs = false := by
    intro xs hxs
    rw [Bool.eq_false_iff]
    exact fun h => hxs (((isProbe_eq_true_iff xs).mp h).2 1 (by decide))
  apply hprobe
  rw [List.getElem?_drop, List.getElem?_append_right (by simp)]
  refine getElem?_zeroPackets 4 _ ?_
  simp only [List.length_cons, List.length_nil]
  omega

/-- Four packets after two other bytes, in two chunks. -/
theorem framing_roundTrip_zeroPackets :
    ∃ out, feedChunks (fun (_ : Unit) _ => ((), true)) {} [[SYNC_BYTE, 0], bytesOf (zeroPackets 4)] ⟨(), []⟩ = .ok out ∧
      out.ok = true ∧ out.world.packets = [] ++ zeroPackets 4 ∧ ∀ e, out.framer.frames e = syncedFrames e := by
  have hflat : [[SYNC_BYTE, 0], bytesOf (zeroPackets 4)].flatten = [SYNC_BYTE, 0] ++ bytesOf (zeroPackets 4) := by simp
  exact framing_roundTrip (fun _ _ => rfl) (startsWithSync_zeroPackets 4) (by decide) (by decide)
    isProbe_before_zeroPackets hflat ⟨(), []⟩

/-- Eight packets after two other bytes, to a framer that has been fed four. -/
theorem resynchronises_zeroPackets :
    ∃ f, Reachable f ∧ f.mode ≠ .initialSync ∧ ∃ out lead k,
      feedChunks (fun (_ : Unit) _ => ((), true)) f [[SYNC_BYTE, 0], bytesOf (zeroPackets 8)] ⟨(), []⟩ = .ok out ∧
      out.ok = true ∧ k ≤ 4 ∧ out.world.packets = [] ++ lead ++ (zeroPackets 8).drop k ∧
      ∀ e, out.framer.frames e = syncedFrames e := by
  obtain ⟨out, hout, hspec⟩ :=
    feed_spec (fun (_ : Unit) _ => ((), true)) good_fresh (bytesOf (zeroPackets 4)) ⟨(), []⟩
  have hsync : isProbe (bytesOf (zeroPackets 4)) = true := by
    rw [← List.append_nil (bytesOf (zeroPackets 4))]
    exact isProbe_bytesOf (startsWithSync_zeroPackets 4) (by decide) []
  have hframes : PacketFramer.frames {} (bytesOf (zeroPackets 4)) ≠ [] := by
    have hstart : PacketFramer.frames {} (bytesOf (zeroPackets 4)) = initialFrames 0 (bytesOf (zeroPackets 4)) := rfl
    rw [hstart, initialFrames_of_probe (by decide) hsync]
    exact List.append_ne_nil_of_left_ne_nil (probePackets_ne_nil ((isProbe_eq_true_iff _).mp hsync).1) _
  cases hspec with
  | accepted f' _ _ _ _ hm =>
    have hf : Reachable f' := Reachable.fresh.feed hout rfl
    have hmode : f'.mode ≠ .initialSync := fun h => hframes (hm.mp h).2
    have hflat : [[SYNC_BYTE, 0], bytesOf (zeroPackets 8)].flatten = [SYNC_BYTE, 0] ++ bytesOf (zeroPackets 8) := by simp
    exact ⟨f', hf, hmode, resynchronises (fun _ _ => rfl) hf hmode cleanTrain_zeroPackets hflat ⟨(), []⟩⟩
  | refused f' _ _ href =>
    rw [(deliver_of_forall (fun _ _ => rfl) _ _).1] at href
    cases href
  | noSync f' _ _ hfr => exact absurd (by simpa using hfr []) hframes

end AribcapDump
