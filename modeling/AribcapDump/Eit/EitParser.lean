import AribcapDump.OutputRecord
import AribcapDump.TsUtils

/-!
# EIT tables to records

`ParseEit` of core/eit_parser: at most two records per EIT present/following
table, each with the text and genres of its event's descriptors.  The three
asserts of `ParseEit` are compiled out of release builds and are not part of the
function.
-/

namespace AribcapDump

structure DeserializedEit where
  eit : EIT
  version : UInt8
  presentSectionHasEvent : Bool

/-- One description/value pair of an `extended_event_descriptor`. -/
structure ParsedExtendedEventItem where
  description : Bytes
  value : Bytes
deriving DecidableEq

/-- What `ParseDescriptors` gathers. -/
structure ParsedEventText where
  genres : List EitGenre := []
  shortEvents : List EitShortEvent := []
  extendedText : Bytes := []
deriving DecidableEq

def getSectionKind (eventIndex : ℕ) (presentSectionHasEvent : Bool) : EitSection :=
  if presentSectionHasEvent ∧ eventIndex = 0 then .kPresent else .kFollowing

/-! ## Extended text -/

/-- A missing description continues the value of the last item. -/
def pushParsedExtendedEventItem (items : List ParsedExtendedEventItem) (description value : Bytes) :
    List ParsedExtendedEventItem :=
  match items.getLast? with
  | some last =>
    if description = [] then items.dropLast ++ [{ last with value := last.value ++ value }]
    else items ++ [⟨description, value⟩]
  | none => items ++ [⟨description, value⟩]

/-- `append_part` of `FormatExtendedText`; 10 is a newline. -/
def appendPart (out part : Bytes) : Bytes :=
  (if out = [] then out else out ++ [10]) ++ part

def formatExtendedText (items : List ParsedExtendedEventItem) (trailingText : Bytes) : Bytes :=
  let out := items.foldl (fun out item =>
    if item.description = [] then
      if item.value = [] then out else appendPart out item.value
    else appendPart out (item.description ++ [10] ++ item.value)) []
  if trailingText = [] then out else appendPart out trailingText

/-! ## Descriptors -/

section
variable [TSDuck]

theorem DescriptorList.lt_search {descriptors : DescriptorList} (tag : UInt8) {index : ℕ}
    (h : index < descriptors.length) : index < descriptors.search tag (index + 1) :=
  TSDuck.le_search descriptors tag h

/-- `for (index = search(tag); index < count(); index = search(tag, index + 1)) body(descriptors[index])`,
from `index` on. -/
def searchLoop {α : Type} (descriptors : DescriptorList) (tag : UInt8) (body : α → Descriptor → α)
    (index : ℕ) (acc : α) : α :=
  if h : index < descriptors.length then
    searchLoop descriptors tag body (descriptors.search tag (index + 1)) (body acc descriptors[index])
  else acc
termination_by descriptors.length - index
decreasing_by
  have := DescriptorList.lt_search tag h
  omega

def pushShortEvent (shortEvents : List EitShortEvent) (descriptor : Descriptor) : List EitShortEvent :=
  match descriptor.shortEvent with
  | none => shortEvents
  | some shortEvent => shortEvents ++ [⟨shortEvent.eventName, shortEvent.text, shortEvent.languageCode⟩]

def pushGenres (genres : List EitGenre) (descriptor : Descriptor) : List EitGenre :=
  match descriptor.content with
  | none => genres
  | some entries =>
    entries.foldl (fun genres entry => genres ++
      [⟨entry.contentNibbleLevel1, entry.contentNibbleLevel2, entry.userNibble1, entry.userNibble2⟩]) genres

/-- The items and the trailing text gathered so far. -/
def pushExtendedEvent (acc : List ParsedExtendedEventItem × Bytes) (descriptor : Descriptor) :
    List ParsedExtendedEventItem × Bytes :=
  match descriptor.extendedEvent with
  | none => acc
  | some extendedEvent =>
    (extendedEvent.entries.foldl (fun items entry =>
      pushParsedExtendedEventItem items entry.itemDescription entry.item) acc.1, acc.2 ++ extendedEvent.text)

def parseDescriptors (descriptors : DescriptorList) : ParsedEventText :=
  let shortEvents := searchLoop descriptors DID_DVB_SHORT_EVENT pushShortEvent
    (descriptors.search DID_DVB_SHORT_EVENT 0) []
  let genres := searchLoop descriptors DID_DVB_CONTENT pushGenres (descriptors.search DID_DVB_CONTENT 0) []
  let extended := searchLoop descriptors DID_DVB_EXTENDED_EVENT pushExtendedEvent
    (descriptors.search DID_DVB_EXTENDED_EVENT 0) ([], [])
  { genres := genres, shortEvents := shortEvents, extendedText := formatExtendedText extended.1 extended.2 }

end

/-! ## Tables -/

/-- The present section (section number 0) carries an event. -/
def eitPresentSectionHasEvent (table : BinaryTable) : Bool :=
  match table.sectionAt0 with
  | none => false
  | some presentSection => presentSection.isValid && decide (EIT_PAYLOAD_FIXED_SIZE < presentSection.payloadSize)

def deserializeEit (table : BinaryTable) : DeserializedEit where
  eit := table.eit
  version := table.version
  presentSectionHasEvent := eitPresentSectionHasEvent table

variable [TSDuck]

/-- The record of `event`, the `index`-th of the table. -/
def parseEvent (deserialized : DeserializedEit) (index : ℕ) (event : Event) : EitRecord :=
  let eventText := parseDescriptors event.descs
  { startTimeMs := jstTimeToUnixMs event.startTime
    durationSec :=
      if 0 ≤ event.duration ∧ event.duration ≤ 0xFFFFFFFF then some (UInt32.ofNat event.duration.toNat) else none
    shortEvents := eventText.shortEvents
    extendedText := eventText.extendedText
    genres := eventText.genres
    «section» := getSectionKind index deserialized.presentSectionHasEvent
    version := deserialized.version
    serviceId := deserialized.eit.serviceId
    transportStreamId := deserialized.eit.tsId
    originalNetworkId := deserialized.eit.onetwId
    eventId := event.eventId }

/-- The loop of `ParseEit` over the events left. -/
def parseEvents (deserialized : DeserializedEit) : List Event → List EitRecord → List EitRecord
  | [], results => results
  | event :: events, results =>
    if 2 ≤ results.length then results
    else parseEvents deserialized events (results ++ [parseEvent deserialized results.length event])

def parseEit (deserialized : DeserializedEit) : List EitRecord :=
  if deserialized.eit.isValid = false ∨ deserialized.eit.events = [] then []
  else parseEvents deserialized deserialized.eit.events []

end AribcapDump
