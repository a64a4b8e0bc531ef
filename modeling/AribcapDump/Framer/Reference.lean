import AribcapDump.Framer.Feed

/-!
# The framer against a reference on offsets

The reference never buffers: it works on the whole byte string `b` and offsets
into it.  `reference b` takes the least confirmed candidate among the first 188
offsets; `referenceSynced b p` follows packets from `p`; `referenceSearching b p`
takes the least confirmed candidate from `p` on.

One `Feed` of `b` to a fresh framer hands over `reference b`, cut after the first
packet the handler rejects (`feed_fresh_eq_reference`).
-/

namespace AribcapDump

/-- A confirmed candidate: four sync bytes from `c` on and 752 bytes there. -/
def isCandidate (b : List UInt8) (c : Nat) : Bool :=
  decide (c + 752 ≤ b.length) &&
    (b[c]? == some SYNC_BYTE && b[c + 188]? == some SYNC_BYTE && b[c + 376]? == some SYNC_BYTE &&
      b[c + 564]? == some SYNC_BYTE)

/-- The least confirmed candidate in `[lo, hi)`. -/
def leastCandidate (b : List UInt8) (lo hi : Nat) : Option Nat :=
  (List.range' lo (hi - lo)).find? (isCandidate b)

/-- The slice `b[p, p + 188)`, if it is there. -/
def slice? (b : List UInt8) (p : Nat) : Option TSPacket := packet? (b.drop p)

/-- The four slices of a confirmed candidate. -/
def slices (b : List UInt8) (c : Nat) : List TSPacket :=
  [c, c + 188, c + 376, c + 564].filterMap (slice? b)

theorem leastCandidate_bounds {b : List UInt8} {lo hi c : Nat} (h : leastCandidate b lo hi = some c) :
    lo ≤ c ∧ c < lo + (hi - lo) := by
  have := List.mem_of_find?_eq_some h
  rwa [List.mem_range'_1] at this

mutual

/-- Synchronized at offset `p`. -/
def referenceSynced (b : List UInt8) (p : Nat) : List TSPacket :=
  if b.length ≤ p then []
  else if b[p]? ≠ some SYNC_BYTE then referenceSearching b p
  else if p + 188 ≤ b.length then (slice? b p).toList ++ referenceSynced b (p + 188)
  else []
termination_by (b.length - p, 1)
decreasing_by
  · exact Prod.Lex.right _ (by decide)
  · exact Prod.Lex.left _ _ (by omega)

/-- Searching from offset `p` on. -/
def referenceSearching (b : List UInt8) (p : Nat) : List TSPacket :=
  match _hc : leastCandidate b p b.length with
  | none => []
  | some c => slices b c ++ referenceSynced b (c + 752)
termination_by (b.length - p, 0)
decreasing_by
  have := leastCandidate_bounds _hc
  exact Prod.Lex.left _ _ (by omega)

end

/-- The whole input. -/
def reference (b : List UInt8) : List TSPacket :=
  match leastCandidate b 0 188 with
  | none => []
  | some c => slices b c ++ referenceSynced b (c + 752)

/-! ## Offsets and suffixes -/

theorem isCandidate_eq (b : List UInt8) (c : Nat) : isCandidate b c = isProbe (b.drop c) := by
  rw [Bool.eq_iff_iff, isProbe_eq_true_iff]
  simp only [isCandidate, Bool.and_eq_true, decide_eq_true_eq, beq_iff_eq, List.length_drop,
    kSyncProbeSize_eq, List.getElem?_drop]
  constructor
  · rintro ⟨hlen, ⟨⟨h0, h1⟩, h2⟩, h3⟩
    refine ⟨by omega, fun index hi => ?_⟩
    match index, hi with
    | 0, _ => exact h0
    | 1, _ => exact h1
    | 2, _ => exact h2
    | 3, _ => exact h3
  · rintro ⟨hlen, h⟩
    have hlt : 0 < kSyncProbePackets ∧ 1 < kSyncProbePackets ∧ 2 < kSyncProbePackets ∧
        3 < kSyncProbePackets := by decide
    exact ⟨by omega, ⟨⟨h 0 hlt.1, h 1 hlt.2.1⟩, h 2 hlt.2.2.1⟩, h 3 hlt.2.2.2⟩

theorem slices_eq (b : List UInt8) (c : Nat) : slices b c = probePackets (b.drop c) := by
  simp only [slices, probePackets, slice?, kSyncProbePackets, List.drop_drop]
  rfl

theorem leastCandidate_eq (b : List UInt8) (lo hi : Nat) :
    leastCandidate b lo hi =
      match Scan.firstSuffix isProbe (b.drop lo) with
      | some c => if lo + c < hi then some (lo + c) else none
      | none => none := by
  have hfun : isCandidate b = fun c => isProbe (b.drop c) := funext (isCandidate_eq b)
  rw [leastCandidate, hfun]
  exact Scan.find?_range' isProbe b lo hi (fun _ h => ne_nil_of_isProbe h)

/-- A probe found in a suffix lies inside the whole. -/
theorem add_lt_of_firstSuffix {b : List UInt8} {p c : Nat}
    (h : Scan.firstSuffix isProbe (b.drop p) = some c) : p + c < b.length := by
  have hp := ((Scan.firstSuffix_eq_some_iff isProbe _ _).mp h).2.1
  have hlen := ((isProbe_eq_true_iff _).mp hp).1
  simp only [List.length_drop, kSyncProbeSize_eq] at hlen
  omega

/-- The reference at an offset is the frames of the suffix there. -/
theorem referenceSynced_eq (b : List UInt8) :
    ∀ (n p : Nat), b.length - p ≤ n → referenceSynced b p = syncedFrames (b.drop p) ∧
      referenceSearching b p = seekFrames (b.drop p) := by
  intro n
  induction n with
  | zero =>
    intro p hn
    have hnil : b.drop p = [] := List.drop_eq_nil_of_le (by omega)
    have hleast : leastCandidate b p b.length = none := by
      rw [leastCandidate_eq, hnil]
      rfl
    constructor
    · rw [referenceSynced, if_pos (by omega), hnil, syncedFrames]
    · rw [referenceSearching, seekFrames, hnil]
      split
      · rfl
      · next c hc => rw [hleast] at hc; cases hc
  | succ n ih =>
    intro p hn
    have hsearch : referenceSearching b p = seekFrames (b.drop p) := by
      have hleast := leastCandidate_eq b p b.length
      rw [referenceSearching, seekFrames]
      cases hf : Scan.firstSuffix isProbe (b.drop p) with
      | none =>
        rw [hf] at hleast
        split
        · rfl
        · next c hc => rw [hleast] at hc; cases hc
      | some c =>
        have hlt := add_lt_of_firstSuffix hf
        rw [hf] at hleast
        simp only [hlt, if_true] at hleast
        split
        · next hc => rw [hleast] at hc; cases hc
        · next c' hc =>
          rw [hleast] at hc
          cases hc
          simp only
          rw [slices_eq, (ih (p + c + 752) (by omega)).1, List.drop_drop, List.drop_drop,
            kSyncProbeSize_eq, Nat.add_assoc]
    refine ⟨?_, hsearch⟩
    rw [referenceSynced]
    split
    · next hend => rw [List.drop_eq_nil_of_le hend, syncedFrames]
    · next hin =>
      split
      · next hlost =>
        rw [hsearch, syncedFrames_of_lost]
        rwa [List.head?_drop]
      · next hsync =>
        rw [ne_eq, not_not, ← List.head?_drop] at hsync
        split
        · next hfit =>
          have hle : PKT_SIZE ≤ (b.drop p).length := by rw [List.length_drop, PKT_SIZE_eq]; omega
          obtain ⟨packet, hpk⟩ : ∃ packet, packet? (b.drop p) = some packet := ⟨_, packet?_of_le hle⟩
          rw [syncedFrames_of_packet hsync hpk, slice?, hpk, (ih (p + 188) (by omega)).1,
            List.drop_drop]
          rfl
        · next hshort =>
          rw [syncedFrames_of_short]
          rw [List.length_drop, PKT_SIZE_eq]
          omega

theorem reference_eq (b : List UInt8) : reference b = initialFrames 0 b := by
  have hleast := leastCandidate_eq b 0 188
  rw [List.drop_zero] at hleast
  rw [reference, initialFrames]
  cases hf : Scan.firstSuffix isProbe b with
  | none =>
    rw [hf] at hleast
    rw [hleast]
  | some c =>
    rw [hf] at hleast
    simp only [Nat.zero_add] at hleast ⊢
    by_cases hlt : c < 188
    · rw [if_pos hlt] at hleast
      rw [hleast, if_pos (by rw [PKT_SIZE_eq]; exact hlt)]
      simp only
      rw [slices_eq, (referenceSynced_eq b _ (c + 752) (Nat.le_refl _)).1, kSyncProbeSize_eq]
    · rw [if_neg hlt] at hleast
      rw [hleast, if_neg (by rw [PKT_SIZE_eq]; exact hlt)]

/-! ## Top theorem -/

/-- **A whole buffer.**  One `Feed` of `b` to a fresh framer hands the handler the reference's
packets, cut after the first it rejects, and leaves the handler in the state it has then. -/
theorem feed_fresh_eq_reference {σ : Type} (onPacket : PacketHandler σ) (s : σ) (b : List UInt8) :
    ∃ out, feed onPacket {} b ⟨s, []⟩ = .ok out ∧
      out.world.packets = (Offer.offer onPacket s (reference b)).handed ∧
      out.world.state = (Offer.offer onPacket s (reference b)).state := by
  obtain ⟨out, hout, hspec⟩ := feed_spec onPacket good_fresh b ⟨s, []⟩
  have howed : PacketFramer.frames {} b = reference b := by
    rw [reference_eq]
    rfl
  refine ⟨out, hout, ?_⟩
  rw [hspec.world_eq, howed]
  simp [deliver]

end AribcapDump
