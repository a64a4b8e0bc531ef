import AribcapDump.Caption.DecoderRuns
import AribcapDump.JsonUtf8

/-!
# Caption lines in UTF-8

The strings of a caption record are the decoder's text and ruby, a colour, and
three bytes cut out of the language code of the stream, which nothing checks.

* `valid_captionRecord_iff`: the line of a caption is valid UTF-8 exactly when its language code is well-formed.
* `captionLine_valid`: what that says of the records `HandlePes` emits.
-/

namespace AribcapDump

open Utf8

/-! ## Colour and ruby -/

theorem hexDigit_lt (n : UInt32) : (hexDigit (n &&& 0xF)).toNat < 0x80 := by
  have hall : ∀ k < 16, (hexDigit (UInt32.ofNat k)).toNat < 0x80 := by decide
  have hlt : (n &&& 0xF).toNat < 16 := by
    rw [UInt32.toNat_and]
    exact Nat.lt_succ_of_le Nat.and_le_right
  have hdigit := hall (n &&& 0xF).toNat hlt
  rwa [UInt32.ofNat_toNat] at hdigit

theorem ascii_colorToRgbaHex (color : ColorRGBA) : Ascii (colorToRgbaHex color) := by
  have hnibbles : ∀ n, Ascii ((nibbles n).map hexDigit) := by
    intro n b hb
    unfold nibbles at hb
    rw [List.map_map] at hb
    obtain ⟨shifted, -, rfl⟩ := List.mem_map.mp hb
    exact hexDigit_lt shifted
  unfold colorToRgbaHex
  exact ((hnibbles _).cons (by decide)).cons (by decide)

/-- The decoder's text, and the texts of its ruby characters, are valid. -/
structure Caption.InUtf8 (caption : Caption) : Prop where
  text : Valid caption.text
  ruby : ∀ region ∈ caption.regions, region.isRuby = true →
    ∀ ch ∈ region.chars, Valid (ch.u8str.takeWhile (· != 0))

theorem valid_rubyText {chars : List CaptionChar} (hchars : ∀ ch ∈ chars, Valid (ch.u8str.takeWhile (· != 0))) :
    Valid (rubyText chars) := by
  have hfold : ∀ text, Valid text → Valid (chars.foldl (fun text ch =>
      if hasUtf8Text ch then text ++ ch.u8str.takeWhile (· != 0) else text) text) := by
    induction chars with
    | nil => exact fun text htext => htext
    | cons ch chars ih =>
      intro text htext
      obtain ⟨hch, hchars⟩ := List.forall_mem_cons.mp hchars
      rw [List.foldl_cons]
      apply ih hchars
      split
      · exact htext.append hch
      · exact htext
  exact hfold [] valid_nil

/-- What the metadata gathered so far holds is valid. -/
structure CaptionMetadata.InUtf8 (metadata : CaptionMetadata) : Prop where
  ruby : ∀ text ∈ metadata.ruby, Valid text
  color : ∀ color ∈ metadata.color, Valid color

theorem CaptionMetadata.InUtf8.addRegion {metadata : CaptionMetadata} (h : metadata.InUtf8) {region : CaptionRegion}
    (hregion : region.isRuby = true → ∀ ch ∈ region.chars, Valid (ch.u8str.takeWhile (· != 0))) :
    (metadata.addRegion region).InUtf8 := by
  unfold CaptionMetadata.addRegion
  split
  · next hruby =>
    split
    · exact h
    · refine ⟨?_, h.color⟩
      rw [List.forall_mem_append]
      refine ⟨h.ruby, fun text htext => ?_⟩
      rw [List.mem_singleton.mp htext]
      exact valid_rubyText (hregion hruby)
  · split
    · refine ⟨h.ruby, ?_⟩
      rintro color ⟨⟩
      exact valid_ascii (ascii_colorToRgbaHex _)
    · exact h

theorem inUtf8_extractCaptionMetadata {caption : Caption} (hcaption : caption.InUtf8) :
    (extractCaptionMetadata caption).InUtf8 := by
  have hfold : ∀ (regions : List CaptionRegion) (metadata : CaptionMetadata), metadata.InUtf8 →
      (∀ region ∈ regions, region.isRuby = true → ∀ ch ∈ region.chars, Valid (ch.u8str.takeWhile (· != 0))) →
      (regions.foldl CaptionMetadata.addRegion metadata).InUtf8 := by
    intro regions
    induction regions with
    | nil => exact fun metadata h _ => h
    | cons region regions ih =>
      intro metadata h hregions
      obtain ⟨hregion, hregions⟩ := List.forall_mem_cons.mp hregions
      exact ih _ (h.addRegion hregion) hregions
  exact hfold caption.regions {} ⟨fun _ h => (by cases h), fun _ h => (by cases h)⟩ hcaption.ruby

/-! ## The language code -/

/-- The code is 0, or its three low bytes, high to low, spell characters: three of one byte, one of one byte and one
of two in either order, or one of three (not overlong, no surrogate). -/
def LanguageCodeInUtf8 (iso6392LanguageCode : UInt32) : Prop :=
  let high := iso6392LanguageCode.toNat / 0x10000 % 0x100
  let middle := iso6392LanguageCode.toNat / 0x100 % 0x100
  let low := iso6392LanguageCode.toNat % 0x100
  iso6392LanguageCode = 0 ∨
  (high < 0x80 ∧ middle < 0x80 ∧ low < 0x80) ∨
  (high < 0x80 ∧ (0xC2 ≤ middle ∧ middle < 0xE0) ∧ 0x80 ≤ low ∧ low ≤ 0xBF) ∨
  ((0xC2 ≤ high ∧ high < 0xE0) ∧ (0x80 ≤ middle ∧ middle ≤ 0xBF) ∧ low < 0x80) ∨
  ((0xE0 ≤ high ∧ high < 0xF0) ∧
    ((if high = 0xE0 then 0xA0 else 0x80) ≤ middle ∧ middle ≤ if high = 0xED then 0x9F else 0xBF) ∧
    0x80 ≤ low ∧ low ≤ 0xBF)

theorem valid_languageCodeToString_iff (iso6392LanguageCode : UInt32) :
    (∀ s ∈ languageCodeToString iso6392LanguageCode, Valid s) ↔ LanguageCodeInUtf8 iso6392LanguageCode := by
  have hbyte : ∀ n : UInt32, (n &&& 0xFF).toUInt8.toNat = n.toNat % 0x100 := by
    intro n
    rw [UInt32.toNat_toUInt8, UInt32.toNat_and]
    show (n.toNat &&& (2 ^ 8 - 1)) % 256 = n.toNat % 0x100
    rw [Nat.and_two_pow_sub_one_eq_mod]
    omega
  have hhigh : (iso6392LanguageCode >>> 16).toNat = iso6392LanguageCode.toNat / 0x10000 := by
    rw [UInt32.toNat_shiftRight]
    exact Nat.shiftRight_eq_div_pow _ 16
  have hmiddle : (iso6392LanguageCode >>> 8).toNat = iso6392LanguageCode.toNat / 0x100 := by
    rw [UInt32.toNat_shiftRight]
    exact Nat.shiftRight_eq_div_pow _ 8
  unfold languageCodeToString LanguageCodeInUtf8
  by_cases hzero : iso6392LanguageCode = 0
  · simp [hzero]
  · rw [if_neg hzero]
    simp only [Option.mem_def, Option.some.injEq, forall_eq', valid_three_iff, hbyte, hhigh, hmiddle, hzero, false_or]
    rfl

/-! ## Top theorem -/

section
variable [Jsoncons]

/-- **The line of a caption** is valid exactly when its language code is well-formed. -/
theorem valid_captionRecord_iff (hescape : EscapeSpec) (time : Option Int) {caption : Caption}
    (hcaption : caption.InUtf8) :
    Valid (toJsonLine (.caption (captionRecord time caption))) ↔ LanguageCodeInUtf8 caption.iso6392LanguageCode := by
  have hmetadata := inUtf8_extractCaptionMetadata hcaption
  have hruby : ∀ s ∈ (captionRecord time caption).ruby, Valid s := hmetadata.ruby
  have hcolor : ∀ s ∈ (captionRecord time caption).color, Valid s := hmetadata.color
  have htext : Valid (captionRecord time caption).text := hcaption.text
  have hcode : (captionRecord time caption).languageCode = languageCodeToString caption.iso6392LanguageCode := rfl
  rw [valid_toJsonLine_iff hescape, ← valid_languageCodeToString_iff, ← hcode]
  simp only [OutputRecord.strings, List.forall_mem_cons, List.forall_mem_append, Option.mem_toList, htext, true_and]
  exact ⟨fun h => h.2.2, fun h => ⟨hruby, hcolor, h⟩⟩

/-- **The caption lines.**  Every caption record emitted is that of a caption a decoder gave; its line holds no
newline; and where the decoder's strings are valid UTF-8, so is the line exactly when the language code is
well-formed. -/
theorem captionLine_valid_iff [TSDuck] {δ : Type} [CaptionDecoder δ] (hescape : EscapeSpec)
    (e : CaptionRecordEmitter δ) (clock : ProgramClock) (packet : PESPacket) (record : CaptionRecord)
    (hmem : .caption record ∈ emitted (e.handlePes clock packet).2) :
    ∃ languageId caption,
      (languageId, delivery packet, .kGotCaption caption) ∈ decoded (e.handlePes clock packet).2 ∧
      record = captionRecord (captionTime clock packet) caption ∧
      10 ∉ toJsonLine (.caption record) ∧
      (caption.InUtf8 → (Valid (toJsonLine (.caption record)) ↔ LanguageCodeInUtf8 caption.iso6392LanguageCode)) := by
  obtain ⟨languageId, caption, hdecoded, rfl⟩ := e.caption_of_mem_handlePes hmem
  exact ⟨languageId, caption, hdecoded, rfl, newline_notMem_toJsonLine hescape _, valid_captionRecord_iff hescape _⟩

end

/-- The text `A`, without ruby. -/
def captionWithCode (iso6392LanguageCode : UInt32) : Caption := ⟨[65], [], iso6392LanguageCode⟩

theorem inUtf8_captionWithCode (iso6392LanguageCode : UInt32) : (captionWithCode iso6392LanguageCode).InUtf8 :=
  ⟨valid_ascii (ascii_singleton (by decide)), fun _ h => (by cases h)⟩

/-- An emitter of profile A with one decoder. -/
def singleEmitter : CaptionRecordEmitter Unit := .new .kProfileA (fun _ _ => ()) false

/-- A PES packet without a PTS. -/
def untimedPes : PESPacket := ⟨0x130, false, [], [0x80]⟩

/-- The code `0xFF706E` gives a line that is not valid UTF-8. -/
theorem captionLine_invalid :
    letI := TSDuck.documented
    letI := Jsoncons.documented
    letI := CaptionDecoder.always (captionWithCode 0xFF706E)
    (captionWithCode 0xFF706E).InUtf8 ∧
    emitted (singleEmitter.handlePes {} untimedPes).2 =
      [.caption ⟨none, [65], [], none, some [0xFF, 0x70, 0x6E]⟩] ∧
    ¬ Valid (toJsonLine (.caption ⟨none, [65], [], none, some [0xFF, 0x70, 0x6E]⟩)) := by
  let := Jsoncons.documented
  refine ⟨inUtf8_captionWithCode _, by decide, ?_⟩
  rw [valid_toJsonLine_iff escapeSpec_documented]
  intro h
  have hcode := h [0xFF, 0x70, 0x6E] (by decide)
  rw [valid_three_iff] at hcode
  revert hcode
  decide

/-- The code `jpn`. -/
theorem captionLine_valid_iff_jpn :
    letI := TSDuck.documented
    letI := Jsoncons.documented
    letI := CaptionDecoder.always (captionWithCode 0x6A706E)
    ∃ languageId caption,
      (languageId, delivery untimedPes, .kGotCaption caption) ∈ decoded (singleEmitter.handlePes {} untimedPes).2 ∧
      (⟨none, [65], [], none, some [0x6A, 0x70, 0x6E]⟩ : CaptionRecord) = captionRecord (captionTime {} untimedPes) caption ∧
      10 ∉ toJsonLine (.caption ⟨none, [65], [], none, some [0x6A, 0x70, 0x6E]⟩) ∧
      (caption.InUtf8 → (Valid (toJsonLine (.caption ⟨none, [65], [], none, some [0x6A, 0x70, 0x6E]⟩)) ↔
        LanguageCodeInUtf8 caption.iso6392LanguageCode)) := by
  let := TSDuck.documented
  let := Jsoncons.documented
  let := CaptionDecoder.always (captionWithCode 0x6A706E)
  exact captionLine_valid_iff escapeSpec_documented singleEmitter {} untimedPes
    ⟨none, [65], [], none, some [0x6A, 0x70, 0x6E]⟩ (by decide)

end AribcapDump
