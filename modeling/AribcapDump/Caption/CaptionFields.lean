import AribcapDump.Caption.CaptionRecordEmitter
import Mathlib.Data.List.Basic
import Mathlib.Tactic.IntervalCases

/-!
# What a record keeps of a caption

Of a caption its record keeps the text, the texts of its ruby regions, the colour
of the first character that is no ruby, and the language code: these and nothing
else, and each of them whole.

    captionRecord time caption = captionRecord time caption'  ↔  the captions agree on them

* `extractCaptionMetadata_eq`: the loop over the regions, as what it gathers.
* `colorToRgbaHex_injective`: the text of a colour determines the colour.
* `captionRecord_eq_iff`: what two captions with one record have in common.
-/

namespace AribcapDump

/-! ## Ruby and colour -/

/-- The text of a character. -/
def CaptionChar.text (ch : CaptionChar) : Bytes := ch.u8str.takeWhile (· != 0)

/-- The texts of the ruby regions, but for empty ones. -/
def Caption.rubyTexts (caption : Caption) : List Bytes :=
  ((caption.regions.filter CaptionRegion.isRuby).map fun region => region.chars.flatMap CaptionChar.text).filter (· ≠ [])

/-- The colour of the first character that is no ruby. -/
def Caption.textColor? (caption : Caption) : Option ColorRGBA :=
  ((caption.regions.filter (!·.isRuby)).flatMap CaptionRegion.chars).head?.map CaptionChar.textColor

/-- A character without text adds none. -/
theorem text_of_not_hasUtf8Text {ch : CaptionChar} (h : hasUtf8Text ch = false) : ch.text = [] := by
  unfold hasUtf8Text at h
  unfold CaptionChar.text
  cases hbytes : ch.u8str with
  | nil => rfl
  | cons b bytes =>
    rw [hbytes, List.getD_cons_zero] at h
    rw [List.takeWhile_cons, h]
    rfl

theorem rubyText_eq (chars : List CaptionChar) : rubyText chars = chars.flatMap CaptionChar.text := by
  have hfold : ∀ text, chars.foldl (fun text ch => if hasUtf8Text ch then text ++ ch.u8str.takeWhile (· != 0) else text)
      text = text ++ chars.flatMap CaptionChar.text := by
    induction chars with
    | nil => exact fun text => (List.append_nil text).symm
    | cons ch chars ih =>
      intro text
      rw [List.foldl_cons, ih, List.flatMap_cons, ← List.append_assoc]
      congr 1
      cases hch : hasUtf8Text ch with
      | true => rfl
      | false => rw [text_of_not_hasUtf8Text hch, List.append_nil]; rfl
  exact hfold []

/-- The loop over the regions, from any metadata on. -/
theorem foldl_addRegion (regions : List CaptionRegion) (metadata : CaptionMetadata) :
    regions.foldl CaptionMetadata.addRegion metadata =
      { ruby := metadata.ruby ++ Caption.rubyTexts ⟨[], regions, 0⟩
        color := metadata.color.or ((Caption.textColor? ⟨[], regions, 0⟩).map colorToRgbaHex) } := by
  induction regions generalizing metadata with
  | nil => simp [Caption.rubyTexts, Caption.textColor?]
  | cons region regions ih =>
    rw [List.foldl_cons, ih]
    unfold CaptionMetadata.addRegion
    rw [rubyText_eq]
    cases hruby : region.isRuby with
    | true =>
      by_cases hempty : region.chars.flatMap CaptionChar.text = [] <;>
        simp [Caption.rubyTexts, Caption.textColor?, hruby, hempty]
    | false =>
      cases hcolor : metadata.color with
      | some color => simp [Caption.rubyTexts, hruby, hcolor]
      | none => cases hchars : region.chars <;> simp [Caption.rubyTexts, Caption.textColor?, hruby, hcolor, hchars]

theorem extractCaptionMetadata_eq (caption : Caption) :
    extractCaptionMetadata caption =
      { ruby := caption.rubyTexts, color := caption.textColor?.map colorToRgbaHex } :=
  foldl_addRegion caption.regions {}

/-! ## The text of a colour -/

theorem hexDigit_inj {m n : UInt32} (h : hexDigit (m &&& 0xF) = hexDigit (n &&& 0xF)) : m.toNat % 16 = n.toNat % 16 := by
  have hall : ∀ i < 16, ∀ j < 16, hexDigit (UInt32.ofNat i) = hexDigit (UInt32.ofNat j) → i = j := by decide
  have hnibble : ∀ n : UInt32, n &&& 0xF = UInt32.ofNat (n.toNat % 16) := by
    intro n
    apply UInt32.toNat_inj.mp
    rw [UInt32.toNat_and, UInt32.toNat_ofNat_of_lt' (Nat.lt_trans (Nat.mod_lt _ (by decide)) (by decide))]
    exact Nat.and_two_pow_sub_one_eq_mod n.toNat 4
  rw [hnibble m, hnibble n] at h
  exact hall _ (by omega) _ (by omega) h

/-- Eight hexadecimal digits determine 32 bits. -/
theorem nibbles_hexDigit_inj {m n : UInt32} (h : (nibbles m).map hexDigit = (nibbles n).map hexDigit) : m = n := by
  simp only [nibbles, List.map_cons, List.map_nil, List.cons.injEq, and_true] at h
  obtain ⟨h28, h24, h20, h16, h12, h8, h4, h0⟩ := h
  have h28 := hexDigit_inj h28
  have h24 := hexDigit_inj h24
  have h20 := hexDigit_inj h20
  have h16 := hexDigit_inj h16
  have h12 := hexDigit_inj h12
  have h8 := hexDigit_inj h8
  have h4 := hexDigit_inj h4
  have h0 := hexDigit_inj h0
  simp only [UInt32.toNat_shiftRight, Nat.shiftRight_eq_div_pow, UInt32.reduceToNat, Nat.reduceMod, Nat.reducePow] at *
  have hm := m.toNat_lt
  have hn := n.toNat_lt
  exact UInt32.toNat_inj.mp (by omega)

/-- The four bytes of a colour are those of the number. -/
theorem toNat_rgba (color : ColorRGBA) :
    ((color.r.toUInt32 <<< 24) ||| (color.g.toUInt32 <<< 16) ||| (color.b.toUInt32 <<< 8) |||
      color.a.toUInt32).toNat =
      2 ^ 24 * color.r.toNat + (2 ^ 16 * color.g.toNat + (2 ^ 8 * color.b.toNat + color.a.toNat)) := by
  have hr := color.r.toNat_lt
  have hg := color.g.toNat_lt
  have hb := color.b.toNat_lt
  have ha := color.a.toNat_lt
  rw [Nat.two_pow_add_eq_or_of_lt (by omega), Nat.two_pow_add_eq_or_of_lt (by omega),
    Nat.two_pow_add_eq_or_of_lt (by omega)]
  simp only [UInt32.toNat_or, UInt32.toNat_shiftLeft, UInt8.toNat_toUInt32, UInt32.reduceToNat, Nat.shiftLeft_eq,
    Nat.reduceMod, Nat.or_assoc]
  rw [Nat.mod_eq_of_lt (by omega), Nat.mod_eq_of_lt (by omega), Nat.mod_eq_of_lt (by omega)]
  simp only [Nat.mul_comm]

/-- **The text of a colour determines the colour.** -/
theorem colorToRgbaHex_injective : Function.Injective colorToRgbaHex := by
  intro c c' h
  obtain ⟨-, h⟩ := List.cons.inj h
  obtain ⟨-, h⟩ := List.cons.inj h
  have hrgba := congrArg UInt32.toNat (nibbles_hexDigit_inj h)
  rw [toNat_rgba, toNat_rgba] at hrgba
  obtain ⟨r, g, b, a⟩ := c
  obtain ⟨r', g', b', a'⟩ := c'
  have hr := r.toNat_lt
  have hg := g.toNat_lt
  have hb := b.toNat_lt
  have ha := a.toNat_lt
  have hr' := r'.toNat_lt
  have hg' := g'.toNat_lt
  have hb' := b'.toNat_lt
  have ha' := a'.toNat_lt
  simp only at *
  rw [ColorRGBA.mk.injEq, ← UInt8.toNat_inj, ← UInt8.toNat_inj, ← UInt8.toNat_inj, ← UInt8.toNat_inj]
  omega

/-! ## The language -/

theorem toNat_lowByte (n : UInt32) : (n &&& 0xFF).toUInt8.toNat = n.toNat % 256 := by
  rw [UInt32.toNat_toUInt8, UInt32.toNat_and]
  show (n.toNat &&& (2 ^ 8 - 1)) % 256 = _
  rw [Nat.and_two_pow_sub_one_eq_mod, Nat.mod_mod]

/-- A code is written as its three low bytes, and 0 is not written. -/
theorem languageCodeToString_eq_iff {m n : UInt32} :
    languageCodeToString m = languageCodeToString n ↔ (m = 0 ↔ n = 0) ∧ m.toNat % 2 ^ 24 = n.toNat % 2 ^ 24 := by
  unfold languageCodeToString
  by_cases hm : m = 0
  · by_cases hn : n = 0
    · simp [hm, hn]
    · simp [hm, hn]
  · by_cases hn : n = 0
    · simp [hm, hn]
    · simp only [hm, hn, if_false, iff_self, true_and, Option.some.injEq, List.cons.injEq, and_true, ← UInt8.toNat_inj,
        toNat_lowByte, UInt32.toNat_shiftRight, Nat.shiftRight_eq_div_pow, UInt32.reduceToNat, Nat.reduceMod]
      omega

/-! ## Top theorem -/

/-- **What a record keeps of a caption**: at one time, two captions give one record exactly if they have the same text,
ruby texts and text colour, and the three low bytes of their language codes, if any, are the same. -/
theorem captionRecord_eq_iff (time : Option Int) (caption caption' : Caption) :
    captionRecord time caption = captionRecord time caption' ↔
      caption.text = caption'.text ∧ caption.rubyTexts = caption'.rubyTexts ∧
      caption.textColor? = caption'.textColor? ∧
      (caption.iso6392LanguageCode = 0 ↔ caption'.iso6392LanguageCode = 0) ∧
      caption.iso6392LanguageCode.toNat % 2 ^ 24 = caption'.iso6392LanguageCode.toNat % 2 ^ 24 := by
  have hcolor : caption.textColor?.map colorToRgbaHex = caption'.textColor?.map colorToRgbaHex ↔
      caption.textColor? = caption'.textColor? := (Option.map_injective colorToRgbaHex_injective).eq_iff
  simp only [captionRecord, extractCaptionMetadata_eq, CaptionRecord.mk.injEq, true_and, hcolor,
    languageCodeToString_eq_iff]

end AribcapDump
