import AribcapDump.TsUtils
import Mathlib.Tactic.IntervalCases

/-!
# The PTS of a PES header

The five bytes of a PTS hold 33 bits in three pieces of 3, 15 and 15, each
followed by a marker bit, after a prefix that repeats the PTS_DTS_flags:

    0010/0011 v[32..30] 1 | v[29..22] | v[21..15] 1 | v[14..7] | v[6..0] 1

* `parsePesPts_eq_some_iff`: `ParsePesPts` reads `v` exactly where these five bytes stand.
* `parsePesPts_inverse`: both directions, and what is read of the header.
-/

namespace AribcapDump

/-- PTS_DTS_flags: a PTS alone, or a PTS and a DTS. -/
inductive PtsDtsFlags
  | ptsOnly
  | ptsAndDts
deriving DecidableEq

/-- The two bits of the flags, and the four bits before the PTS. -/
def PtsDtsFlags.bits : PtsDtsFlags → ℕ
  | .ptsOnly => 2
  | .ptsAndDts => 3

/-- The five bytes that carry the PTS `v`. -/
def encodePts (flags : PtsDtsFlags) (v : ℕ) : List ℕ :=
  [16 * flags.bits + 2 * (v / 0x40000000 % 8) + 1, v / 0x400000 % 256, 2 * (v / 0x8000 % 128) + 1,
    v / 0x80 % 256, 2 * (v % 128) + 1]

example : encodePts .ptsOnly MAX_PTS_DTS = [0x2F, 0xFF, 0xFF, 0xFF, 0xFF] := by decide

/-- The header carries the PTS `v`. -/
structure CarriesPts (packet : PESPacket) (flags : PtsDtsFlags) (v : ℕ) : Prop where
  longHeader : packet.hasLongHeader = true
  size : 14 ≤ packet.header.length
  flagBits : packet.headerByte 7 / 64 = flags.bits
  field : ((packet.header.drop 9).take 5).map UInt8.toNat = encodePts flags v
  range : v < PTS_DTS_SCALE

/-! ## Bits -/

theorem headerByte_lt (packet : PESPacket) (index : ℕ) : packet.headerByte index < 256 :=
  UInt8.toNat_lt _

theorem headerUInt16_lt (packet : PESPacket) (index : ℕ) : packet.headerUInt16 index < 0x10000 := by
  have hhigh := headerByte_lt packet index
  have hlow := headerByte_lt packet (index + 1)
  unfold PESPacket.headerUInt16
  omega

theorem flagBits_eq (b : ℕ) (hb : b < 256) : b &&& 0xC0 = 64 * (b / 64) := by
  revert b
  decide +kernel

/-- The prefix test: the four high bits and the marker, whatever the three bits between. -/
theorem prefixBits_eq_iff (b : ℕ) (hb : b < 256) (flags : PtsDtsFlags) :
    b &&& 0xF1 = 16 * flags.bits + 1 ↔ b / 16 = flags.bits ∧ b % 2 = 1 := by
  revert b
  cases flags <;> decide +kernel

theorem highBits_eq (b : ℕ) (hb : b < 256) : b &&& 0x0E = 2 * (b / 2 % 8) := by
  revert b
  decide +kernel

/-- Dropping the marker bit below a 15-bit piece. -/
theorem pieceBits_eq (w : ℕ) (hw : w < 0x10000) : w &&& 0xFFFE = 2 * (w / 2) := by
  have hmask : w &&& 0xFFFE = 2 * (w / 2 &&& 0x7FFF) := by
    apply Nat.eq_of_testBit_eq
    intro i
    cases i with
    | zero => simp
    | succ i => simp [Nat.testBit_succ, Nat.and_div_two]
  have hpiece : w / 2 &&& (2 ^ 15 - 1) = w / 2 % 2 ^ 15 := Nat.and_two_pow_sub_one_eq_mod _ 15
  rw [hmask, show (0x7FFF : ℕ) = 2 ^ 15 - 1 from rfl, hpiece]
  omega

/-- The three pieces do not overlap. -/
theorem assemble_eq (high middle low : ℕ) (hhigh : high < 8) (hmiddle : middle < 0x8000) (hlow : low < 0x8000) :
    ((2 * high) <<< 29 ||| (2 * middle) <<< 14 ||| low) &&& MAX_PTS_DTS =
      high * 0x40000000 + middle * 0x8000 + low := by
  have hmiddleShift : (2 * middle) <<< 14 = 2 ^ 15 * middle := by
    rw [Nat.shiftLeft_eq]
    omega
  have hhighShift : (2 * high) <<< 29 = 2 ^ 30 * high := by
    rw [Nat.shiftLeft_eq]
    omega
  rw [hmiddleShift, hhighShift, Nat.or_assoc, ← Nat.two_pow_add_eq_or_of_lt (by omega : low < 2 ^ 15),
    ← Nat.two_pow_add_eq_or_of_lt (by omega : 2 ^ 15 * middle + low < 2 ^ 30),
    show MAX_PTS_DTS = 2 ^ 33 - 1 from rfl, Nat.and_two_pow_sub_one_eq_mod]
  omega

/-- The field, byte by byte. -/
theorem field_eq (packet : PESPacket) (hsize : 14 ≤ packet.header.length) :
    ((packet.header.drop 9).take 5).map UInt8.toNat = [packet.headerByte 9, packet.headerByte 10,
      packet.headerByte 11, packet.headerByte 12, packet.headerByte 13] := by
  apply List.ext_getElem
  · simp
    omega
  · intro i h1 h2
    have hi : i < 5 := h2
    have hin : 9 + i < packet.header.length := by omega
    have hbyte : packet.headerByte (9 + i) = packet.header[9 + i].toNat := by
      unfold PESPacket.headerByte
      rw [List.getD_eq_getElem?_getD, List.getElem?_eq_getElem hin]
      rfl
    rw [List.getElem_map, List.getElem_take, List.getElem_drop, ← hbyte]
    interval_cases i <;> rfl

/-! ## Parsing -/

/-- What the tests of `ParsePesPts` say of the bytes, and what it returns. -/
theorem parsePesPts_bytes (packet : PESPacket) (v : ℕ) :
    parsePesPts packet = some v ↔ packet.hasLongHeader = true ∧ 14 ≤ packet.header.length ∧
      ∃ flags : PtsDtsFlags, packet.headerByte 7 / 64 = flags.bits ∧
        (packet.headerByte 9 / 16 = flags.bits ∧ packet.headerByte 9 % 2 = 1) ∧
        packet.headerByte 11 % 2 = 1 ∧ packet.headerByte 13 % 2 = 1 ∧
        v = packet.headerByte 9 / 2 % 8 * 0x40000000 + packet.headerUInt16 10 / 2 * 0x8000 +
          packet.headerUInt16 12 / 2 := by
  have h9 := headerByte_lt packet 9
  have hvalue : ((((packet.headerByte 9 &&& 0x0E) <<< 29) ||| ((packet.headerUInt16 10 &&& 0xFFFE) <<< 14) |||
      (packet.headerUInt16 12 >>> 1)) &&& MAX_PTS_DTS) =
      packet.headerByte 9 / 2 % 8 * 0x40000000 + packet.headerUInt16 10 / 2 * 0x8000 +
        packet.headerUInt16 12 / 2 := by
    have hmiddle := headerUInt16_lt packet 10
    have hlow := headerUInt16_lt packet 12
    rw [highBits_eq _ h9, pieceBits_eq _ hmiddle, Nat.shiftRight_one]
    exact assemble_eq _ _ _ (by omega) (by omega) (by omega)
  have hshort : packet.headerByte 9 &&& 0xF1 = 0x21 ↔ packet.headerByte 9 / 16 = 2 ∧ packet.headerByte 9 % 2 = 1 :=
    prefixBits_eq_iff _ h9 .ptsOnly
  have hboth : packet.headerByte 9 &&& 0xF1 = 0x31 ↔ packet.headerByte 9 / 16 = 3 ∧ packet.headerByte 9 % 2 = 1 :=
    prefixBits_eq_iff _ h9 .ptsAndDts
  unfold parsePesPts
  simp only [flagBits_eq _ (headerByte_lt packet 7), Nat.and_one_is_mod, hvalue, ne_eq, hshort, hboth]
  constructor
  · intro h
    split at h
    · cases h
    · next hlong =>
      rw [not_or, Bool.not_eq_false, Nat.not_lt] at hlong
      split at h
      · cases h
      · next hflags =>
        split at h
        · cases h
        · next htests =>
          refine ⟨hlong.1, hlong.2, ?_⟩
          have hv := Option.some.inj h
          by_cases htwo : packet.headerByte 7 / 64 = 2
          · exact ⟨.ptsOnly, htwo, by simp only [PtsDtsFlags.bits]; omega, by omega, by omega, hv.symm⟩
          · exact ⟨.ptsAndDts, by simp only [PtsDtsFlags.bits]; omega, by simp only [PtsDtsFlags.bits]; omega,
              by omega, by omega, hv.symm⟩
  · rintro ⟨hlong, hsize, flags, hflags, hprefix, hmarker2, hmarker3, rfl⟩
    rw [if_neg (by simp [hlong]; omega)]
    cases flags with
    | ptsOnly =>
      simp only [PtsDtsFlags.bits] at hflags hprefix
      rw [if_neg (by omega), if_neg (by omega)]
    | ptsAndDts =>
      simp only [PtsDtsFlags.bits] at hflags hprefix
      rw [if_neg (by omega), if_neg (by omega)]

/-- **`ParsePesPts` reads `v` exactly where `v` is encoded.** -/
theorem parsePesPts_eq_some_iff (packet : PESPacket) (v : ℕ) :
    parsePesPts packet = some v ↔ ∃ flags, CarriesPts packet flags v := by
  have h9 := headerByte_lt packet 9
  have h10 := headerByte_lt packet 10
  have h11 := headerByte_lt packet 11
  have h12 := headerByte_lt packet 12
  have h13 := headerByte_lt packet 13
  rw [parsePesPts_bytes]
  simp only [PESPacket.headerUInt16, Nat.reduceAdd]
  constructor
  · rintro ⟨hlong, hsize, flags, hflags, hprefix, hmarker2, hmarker3, rfl⟩
    refine ⟨flags, hlong, hsize, hflags, ?_, ?_⟩
    · rw [field_eq packet hsize]
      simp only [encodePts, List.cons.injEq, and_true]
      refine ⟨?_, ?_, ?_, ?_, ?_⟩ <;> omega
    · unfold PTS_DTS_SCALE
      omega
  · rintro ⟨flags, hlong, hsize, hflags, hfield, hrange⟩
    rw [field_eq packet hsize] at hfield
    simp only [encodePts, List.cons.injEq, and_true] at hfield
    unfold PTS_DTS_SCALE at hrange
    obtain ⟨e9, e10, e11, e12, e13⟩ := hfield
    exact ⟨hlong, hsize, flags, hflags, by omega, by omega, by omega, by omega⟩

/-! ## Top theorem -/

theorem encodePts_lt (flags : PtsDtsFlags) (v : ℕ) : ∀ b ∈ encodePts flags v, b < 256 := by
  intro b hb
  have hbits : flags.bits ≤ 3 := by cases flags <;> decide
  simp only [encodePts, List.mem_cons, List.not_mem_nil, or_false] at hb
  omega

/-- A header with an encoded PTS after its first nine bytes carries it. -/
theorem carriesPts_encode {flags : PtsDtsFlags} {v : ℕ} (hv : v < PTS_DTS_SCALE) (sourcePID : PID) (before : Bytes)
    (rest payload : Bytes) (hbefore : before.length = 9) (hflags : (before.getD 7 0).toNat / 64 = flags.bits) :
    CarriesPts ⟨sourcePID, true, before ++ (encodePts flags v).map UInt8.ofNat ++ rest, payload⟩ flags v := by
  have hfield : (encodePts flags v).length = 5 := rfl
  refine ⟨rfl, ?_, ?_, ?_, hv⟩
  · simp [hbefore, hfield]
    omega
  · have h7 : 7 < before.length := by omega
    rw [← hflags, PESPacket.headerByte, List.append_assoc, List.getD_eq_getElem?_getD,
      List.getElem?_append_left h7, ← List.getD_eq_getElem?_getD]
  · rw [List.append_assoc, ← hbefore, List.drop_left, List.take_append_of_le_length (by simp [hfield]),
      List.take_of_length_le (by simp [hfield]), List.map_map]
    refine (List.map_congr_left fun b hb => ?_).trans (List.map_id _)
    show (UInt8.ofNat b).toNat = b
    rw [UInt8.toNat_ofNat', Nat.mod_eq_of_lt (encodePts_lt flags v b hb)]

/-- Nothing is read of a short header, and of a long one nothing past byte 13. -/
theorem parsePesPts_congr {packet packet' : PESPacket} (hlong : packet.hasLongHeader = packet'.hasLongHeader)
    (hsize : 14 ≤ packet.header.length ↔ 14 ≤ packet'.header.length)
    (hbytes : 14 ≤ packet.header.length → packet.header.take 14 = packet'.header.take 14) :
    parsePesPts packet = parsePesPts packet' := by
  by_cases hfull : 14 ≤ packet.header.length
  · have hbyte : ∀ index < 14, packet.headerByte index = packet'.headerByte index := by
      intro index hindex
      unfold PESPacket.headerByte
      rw [List.getD_eq_getElem?_getD, List.getD_eq_getElem?_getD, ← List.getElem?_take_of_lt hindex, hbytes hfull,
        List.getElem?_take_of_lt hindex]
    apply Option.ext
    intro v
    rw [parsePesPts_bytes, parsePesPts_bytes]
    simp only [PESPacket.headerUInt16, Nat.reduceAdd, hlong, hsize, hbyte 7 (by decide), hbyte 9 (by decide),
      hbyte 10 (by decide), hbyte 11 (by decide), hbyte 12 (by decide), hbyte 13 (by decide)]
  · have hshort : ∀ packet : PESPacket, ¬ 14 ≤ packet.header.length → parsePesPts packet = none := by
      intro packet hpacket
      unfold parsePesPts
      rw [if_pos (.inr (Nat.lt_of_not_le hpacket))]
    rw [hshort packet hfull, hshort packet' (mt hsize.mpr hfull)]

/-- **Parsing is the inverse of the encoding**: a value is read exactly where it is encoded, every 33-bit value
can be, any other header gives none, and nothing is read past byte 13. -/
theorem parsePesPts_inverse :
    (∀ packet v, parsePesPts packet = some v ↔ ∃ flags, CarriesPts packet flags v) ∧
    (∀ flags v, v < PTS_DTS_SCALE → ∀ sourcePID before rest payload, before.length = 9 →
      (before.getD 7 0).toNat / 64 = flags.bits →
      parsePesPts ⟨sourcePID, true, before ++ (encodePts flags v).map UInt8.ofNat ++ rest, payload⟩ = some v) ∧
    (∀ packet, (¬ ∃ flags v, CarriesPts packet flags v) → parsePesPts packet = none) ∧
    (∀ packet packet', packet.hasLongHeader = packet'.hasLongHeader →
      (14 ≤ packet.header.length ↔ 14 ≤ packet'.header.length) →
      (14 ≤ packet.header.length → packet.header.take 14 = packet'.header.take 14) →
      parsePesPts packet = parsePesPts packet') := by
  refine ⟨parsePesPts_eq_some_iff, ?_, ?_, fun _ _ => parsePesPts_congr⟩
  · intro flags v hv sourcePID before rest payload hbefore hflags
    rw [parsePesPts_eq_some_iff]
    exact ⟨flags, carriesPts_encode hv sourcePID before rest payload hbefore hflags⟩
  · intro packet hnone
    rw [Option.eq_none_iff_forall_ne_some]
    intro v hv
    obtain ⟨flags, hcarries⟩ := (parsePesPts_eq_some_iff packet v).mp hv
    exact hnone ⟨flags, v, hcarries⟩

end AribcapDump
