import AribcapDump.Clock.ProgramClock

/-!
# Caption records from PES packets

`CaptionRecordEmitter` of core/caption_record_emitter: one caption stream, its
first-language decoder, and a second-language decoder created once the first
reports a second language.

The decoders are libaribcaption's and stand outside the repository: any type
with the two operations of `CaptionDecoder`.  What a call of `HandlePes` does is
the list of its `Effect`s; the records among them go to the sink.
-/

namespace AribcapDump

/-! ## libaribcaption -/

inductive LanguageId
  | kFirst
  | kSecond
deriving DecidableEq

inductive Profile
  | kProfileA
  | kProfileC
deriving DecidableEq

structure ColorRGBA where
  r : UInt8
  g : UInt8
  b : UInt8
  a : UInt8
deriving DecidableEq

/-- `u8str` is a character array; its text ends before the first 0. -/
structure CaptionChar where
  u8str : Bytes
  textColor : ColorRGBA
deriving DecidableEq

structure CaptionRegion where
  isRuby : Bool
  chars : List CaptionChar
deriving DecidableEq

structure Caption where
  text : Bytes
  regions : List CaptionRegion
  iso6392LanguageCode : UInt32
deriving DecidableEq

/-- A `DecodeStatus`, with the caption of `kGotCaption`. -/
inductive DecodeResult
  | kError
  | kNoCaption
  | kGotCaption (caption : Caption)
deriving DecidableEq

class CaptionDecoder (δ : Type) where
  decode : δ → Bytes → Int → δ × DecodeResult
  queryISO6392LanguageCode : δ → LanguageId → UInt32

/-- A decoder that finds `caption` in every payload and reports no second language. -/
@[reducible] def CaptionDecoder.always (caption : Caption) : CaptionDecoder Unit where
  decode decoder _ _ := (decoder, .kGotCaption caption)
  queryISO6392LanguageCode _ _ := 0

/-- A factory may remember its calls: the decoder it returns for a language depends on those before. -/
abbrev CaptionDecoderFactory (δ : Type) := List LanguageId → LanguageId → δ

/-! ## Captions to record fields -/

/-- The lower-case hexadecimal digit of `n`. -/
def hexDigit (n : UInt32) : UInt8 := (if n < 10 then n + 48 else n + 87).toUInt8

/-- The eight nibbles of `n`, high to low. -/
def nibbles (n : UInt32) : List UInt32 :=
  [n >>> 28, n >>> 24, n >>> 20, n >>> 16, n >>> 12, n >>> 8, n >>> 4, n].map fun shifted => shifted &&& 0xF

/-- `std::format("0x{:08x}", rgba)`. -/
def colorToRgbaHex (color : ColorRGBA) : Bytes :=
  let rgba := (color.r.toUInt32 <<< 24) ||| (color.g.toUInt32 <<< 16) ||| (color.b.toUInt32 <<< 8) |||
    color.a.toUInt32
  48 :: 120 :: (nibbles rgba).map hexDigit

example : colorToRgbaHex ⟨255, 0, 16, 171⟩ = [48, 120, 102, 102, 48, 48, 49, 48, 97, 98] := by decide

def hasUtf8Text (ch : CaptionChar) : Bool := ch.u8str.getD 0 0 != 0

def languageCodeToString (iso6392LanguageCode : UInt32) : Option Bytes :=
  if iso6392LanguageCode = 0 then none
  else
    some [((iso6392LanguageCode >>> 16) &&& 0xFF).toUInt8, ((iso6392LanguageCode >>> 8) &&& 0xFF).toUInt8,
      (iso6392LanguageCode &&& 0xFF).toUInt8]

structure CaptionMetadata where
  ruby : List Bytes := []
  color : Option Bytes := none

def rubyText (chars : List CaptionChar) : Bytes :=
  chars.foldl (fun text ch => if hasUtf8Text ch then text ++ ch.u8str.takeWhile (· != 0) else text) []

def CaptionMetadata.addRegion (metadata : CaptionMetadata) (region : CaptionRegion) : CaptionMetadata :=
  if region.isRuby then
    if rubyText region.chars = [] then metadata
    else { metadata with ruby := metadata.ruby ++ [rubyText region.chars] }
  else
    match metadata.color, region.chars with
    | none, ch :: _ => { metadata with color := some (colorToRgbaHex ch.textColor) }
    | _, _ => metadata

def extractCaptionMetadata (caption : Caption) : CaptionMetadata :=
  caption.regions.foldl CaptionMetadata.addRegion {}

def captionRecord (time : Option Int) (caption : Caption) : CaptionRecord where
  timeMs := time
  text := caption.text
  ruby := (extractCaptionMetadata caption).ruby
  color := (extractCaptionMetadata caption).color
  languageCode := languageCodeToString caption.iso6392LanguageCode

/-! ## The emitter -/

/-- What a call does outside the emitter. -/
inductive Effect
  | create (languageId : LanguageId)
  | decode (languageId : LanguageId) (payload : Bytes) (ptsMs : Int) (result : DecodeResult)
  | emit (record : OutputRecord)
deriving DecidableEq

def Effect.record? : Effect → Option OutputRecord
  | .emit record => some record
  | _ => none

/-- The records handed to the sink. -/
def emitted (trace : List Effect) : List OutputRecord := trace.filterMap Effect.record?

/-- `decoders_` is `first` and `second`; `factoryCalls` are the calls made to the factory. -/
structure CaptionRecordEmitter (δ : Type) where
  profile : Profile
  emitEmptyCaptions : Bool
  decoderFactory : CaptionDecoderFactory δ
  factoryCalls : List LanguageId
  first : δ
  second : Option δ

namespace CaptionRecordEmitter

variable {δ : Type}

/-- The constructor. -/
def new (profile : Profile) (decoderFactory : CaptionDecoderFactory δ) (emitEmptyCaptions : Bool) :
    CaptionRecordEmitter δ where
  profile := profile
  emitEmptyCaptions := emitEmptyCaptions
  decoderFactory := decoderFactory
  factoryCalls := [.kFirst]
  first := decoderFactory [] .kFirst
  second := none

def decoder (e : CaptionRecordEmitter δ) : LanguageId → Option δ
  | .kFirst => some e.first
  | .kSecond => e.second

def setDecoder (e : CaptionRecordEmitter δ) : LanguageId → δ → CaptionRecordEmitter δ
  | .kFirst, decoder => { e with first := decoder }
  | .kSecond, decoder => { e with second := some decoder }

variable [CaptionDecoder δ]

def ensureSecondLanguageDecoder (e : CaptionRecordEmitter δ) : CaptionRecordEmitter δ × List Effect :=
  match e.second with
  | some _ => (e, [])
  | none =>
    if CaptionDecoder.queryISO6392LanguageCode e.first .kSecond ≠ 0 then
      ({ e with
          second := some (e.decoderFactory e.factoryCalls .kSecond)
          factoryCalls := e.factoryCalls ++ [.kSecond] }, [.create .kSecond])
    else (e, [])

/-- The body of the loop in `HandlePes`; the last component tells that it returned. -/
def handleDecoder (pid : PID) (time : Option Int) (ptsMs : Int) (payload : Bytes)
    (languageId : LanguageId)
    (e : CaptionRecordEmitter δ) : CaptionRecordEmitter δ × List Effect × Bool :=
  match e.decoder languageId with
  | none => (e, [], false)
  | some decoder =>
    let decoded := CaptionDecoder.decode decoder payload ptsMs
    let e := e.setDecoder languageId decoded.1
    let effects := [.decode languageId payload ptsMs decoded.2]
    match decoded.2 with
    | .kError => (e, effects ++ [.emit (.diagnostic (.captionDecodeError ⟨pid⟩))], true)
    | result =>
      let ensured := if languageId = .kFirst then e.ensureSecondLanguageDecoder else (e, [])
      let effects := effects ++ ensured.2
      match result with
      | .kGotCaption caption =>
        if caption.text = [] ∧ e.emitEmptyCaptions = false then (ensured.1, effects, false)
        else (ensured.1, effects ++ [.emit (.caption (captionRecord time caption))], false)
      | _ => (ensured.1, effects, false)

/-- The loop in `HandlePes`, over the decoders left. -/
def handleDecoders (pid : PID) (time : Option Int) (ptsMs : Int) (payload : Bytes) :
    List LanguageId → CaptionRecordEmitter δ → CaptionRecordEmitter δ × List Effect
  | [], e => (e, [])
  | languageId :: languageIds, e =>
    match handleDecoder pid time ptsMs payload languageId e with
    | (e, effects, true) => (e, effects)
    | (e, effects, false) =>
      let rest := handleDecoders pid time ptsMs payload languageIds e
      (rest.1, effects ++ rest.2)

end CaptionRecordEmitter

/-- The PTS handed to the decoders: in milliseconds, or the least `int64_t`. -/
def decoderPtsMs (packet : PESPacket) : Int :=
  match parsePesPts packet with
  | some pts => pts90kToMs pts
  | none => -0x8000000000000000

variable [TSDuck]

/-- The time stamped on the captions of the packet. -/
def captionTime (clock : ProgramClock) (packet : PESPacket) : Option Int :=
  match parsePesPts packet with
  | some pts => clock.ptsToUnixMs pts
  | none => none

def CaptionRecordEmitter.handlePes {δ : Type} [CaptionDecoder δ] (e : CaptionRecordEmitter δ)
    (clock : ProgramClock) (packet : PESPacket) : CaptionRecordEmitter δ × List Effect :=
  handleDecoders packet.sourcePID (captionTime clock packet) (decoderPtsMs packet) packet.payload
    [.kFirst, .kSecond] e

end AribcapDump
