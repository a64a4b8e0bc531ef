import AribcapDump.OutputRecord
import AribcapDump.TsUtils

/-!
# Records as lines of JSON

`ToJsonLine` of core/output_record.  A JSON value is the text it is written as;
members stand in the order they are added, and there are no blanks, as
tests/output_record_json_test.cc asserts.

The JSON library stands outside the repository: `Jsoncons.escape` is what it
writes for a byte of a string.
-/

namespace AribcapDump

/-! ## jsoncons -/

class Jsoncons where
  escape : UInt8 → Bytes

/-- Quotes, backslashes and control characters. -/
def mustEscape (b : UInt8) : Bool := b.toNat < 0x20 || b == 34 || b == 92 || b == 0x7F

/-- Assumed of the library: what must be escaped is written in printable ASCII characters, the rest is copied. -/
structure EscapeSpec [Jsoncons] : Prop where
  escapes : ∀ b, mustEscape b = true →
    Jsoncons.escape b ≠ [] ∧ ∀ e ∈ Jsoncons.escape b, 0x20 ≤ e.toNat ∧ e.toNat < 0x7F
  copies : ∀ b, mustEscape b = false → Jsoncons.escape b = [b]

/-- The byte values of a literal. -/
def ascii (s : String) : Bytes := s.toList.map Char.toUInt8

/-- The escapes of JSON, short where there is a short one. -/
@[reducible] def Jsoncons.documented : Jsoncons where
  escape b :=
    if b = 34 ∨ b = 92 then [92, b]
    else if b = 8 then ascii "\\b"
    else if b = 9 then ascii "\\t"
    else if b = 10 then ascii "\\n"
    else if b = 12 then ascii "\\f"
    else if b = 13 then ascii "\\r"
    else if mustEscape b then
      ascii "\\u00" ++ (Nat.toDigits 16 (b.toNat / 16) ++ Nat.toDigits 16 (b.toNat % 16)).map Char.toUInt8
    else [b]

theorem escapeSpec_documented : @EscapeSpec Jsoncons.documented := by
  let := Jsoncons.documented
  have hall : ∀ n < 256, (mustEscape n.toUInt8 = true → Jsoncons.escape n.toUInt8 ≠ [] ∧
      ∀ e ∈ Jsoncons.escape n.toUInt8, 0x20 ≤ e.toNat ∧ e.toNat < 0x7F) ∧
      (mustEscape n.toUInt8 = false → Jsoncons.escape n.toUInt8 = [n.toUInt8]) := by
    decide +kernel
  have hbyte : ∀ b : UInt8, b.toNat.toUInt8 = b := by simp
  constructor
  · intro b
    have hb := (hall b.toNat b.toNat_lt).1
    rwa [hbyte] at hb
  · intro b
    have hb := (hall b.toNat b.toNat_lt).2
    rwa [hbyte] at hb

/-! ## Values -/

def jsonNull : Bytes := ascii "null"

def jsonBool (value : Bool) : Bytes := if value then ascii "true" else ascii "false"

def jsonNumber (n : ℕ) : Bytes := (Nat.toDigits 10 n).map Char.toUInt8

/-- The items with commas between them. -/
def jsonList : List Bytes → Bytes
  | [] => []
  | item :: items => item ++ items.flatMap (44 :: ·)

def jsonArray (items : List Bytes) : Bytes := 91 :: jsonList items ++ [93]

section
variable [Jsoncons]

def jsonString (s : Bytes) : Bytes := 34 :: s.flatMap Jsoncons.escape ++ [34]

def jsonObject (members : List (String × Bytes)) : Bytes :=
  123 :: jsonList (members.map fun member => jsonString (ascii member.1) ++ 58 :: member.2) ++ [125]

/-- `AddOptional`. -/
def jsonOptional {α : Type} (write : α → Bytes) : Option α → Bytes
  | some value => write value
  | none => jsonNull

/-- `AddOptionalRfc3339`. -/
def jsonOptionalRfc3339 (unixMs : Option Int) : Bytes :=
  jsonOptional (fun unixMs => jsonString (unixMsToRfc3339Jst unixMs)) unixMs

/-! ## Records -/

def rubyToJson (ruby : List Bytes) : Bytes := jsonArray (ruby.map jsonString)

def shortEventToJson (shortEvent : EitShortEvent) : Bytes :=
  jsonObject [
    ("eventName", jsonString shortEvent.eventName),
    ("text", jsonString shortEvent.text),
    ("languageCode", jsonString shortEvent.languageCode)]

def genreToJson (genre : EitGenre) : Bytes :=
  jsonObject [
    ("contentNibbleLevel1", jsonNumber genre.contentNibbleLevel1.toNat),
    ("contentNibbleLevel2", jsonNumber genre.contentNibbleLevel2.toNat),
    ("userNibble1", jsonNumber genre.userNibble1.toNat),
    ("userNibble2", jsonNumber genre.userNibble2.toNat)]

def EitSection.toString : EitSection → String
  | .kPresent => "present"
  | .kFollowing => "following"

def captionToJson (record : CaptionRecord) : Bytes :=
  jsonObject [
    ("type", jsonString (ascii "caption")),
    ("time", jsonOptionalRfc3339 record.timeMs),
    ("text", jsonString record.text),
    ("ruby", rubyToJson record.ruby),
    ("color", jsonOptional jsonString record.color),
    ("languageCode", jsonOptional jsonString record.languageCode)]

def eitToJson (record : EitRecord) : Bytes :=
  jsonObject [
    ("type", jsonString (ascii "eit")),
    ("startTime", jsonOptionalRfc3339 record.startTimeMs),
    ("durationSec", jsonOptional (fun seconds => jsonNumber seconds.toNat) record.durationSec),
    ("shortEvents", jsonArray (record.shortEvents.map shortEventToJson)),
    ("extendedText", jsonString record.extendedText),
    ("genres", jsonArray (record.genres.map genreToJson)),
    ("section", jsonString (ascii record.«section».toString)),
    ("version", jsonNumber record.version.toNat),
    ("serviceId", jsonNumber record.serviceId.toNat),
    ("transportStreamId", jsonNumber record.transportStreamId.toNat),
    ("originalNetworkId", jsonNumber record.originalNetworkId.toNat),
    ("eventId", jsonNumber record.eventId.toNat)]

def diagnosticToJson (record : DiagnosticRecord) : Bytes :=
  jsonObject (("type", jsonString (ascii "diagnostic")) ::
    match record with
    | .captionDecodeError kind => [
      ("kind", jsonString (ascii "captionDecodeError")),
      ("pid", jsonNumber kind.pid.toNat)]
    | .reservedPmtPidCollision kind => [
      ("kind", jsonString (ascii "reservedPmtPidCollision")),
      ("pid", jsonNumber kind.pid.toNat)]
    | .pcrDiscontinuity kind => [
      ("kind", jsonString (ascii "pcrDiscontinuity")),
      ("pid", jsonNumber kind.pid.toNat),
      ("flagged", jsonBool kind.flagged)])

def toJsonLine : OutputRecord → Bytes
  | .caption record => captionToJson record
  | .eit record => eitToJson record
  | .diagnostic record => diagnosticToJson record

end

end AribcapDump
