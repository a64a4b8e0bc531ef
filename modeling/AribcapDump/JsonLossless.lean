import AribcapDump.JsonValue
import AribcapDump.Rfc3339Order
import Mathlib.Data.Set.Function

/-!
# Nothing is lost in a line

The JSON value `ToJsonLine` builds of a record determines the record: the type
and the kind, every field present or absent, every list with its order, every
number, string and time.  The line is that value written.

    toJsonLine record = (recordValue record).write             (toJsonLine_eq_write)

* `recordValue_inj`: the value determines the record, if its time is one that is formatted as it should be.
* `toJsonLine_inj`, `toJsonLine_injOn`: so does the line, as long as the library writes different values differently.
-/

namespace AribcapDump

open Json

/-! ## The values built -/

/-- `AddOptional`. -/
def optionalValue {α : Type} (value : α → Json) : Option α → Json
  | some a => value a
  | none => null

/-- `AddOptionalRfc3339`. -/
def optionalRfc3339Value (unixMs : Option Int) : Json :=
  optionalValue (fun unixMs => string (unixMsToRfc3339Jst unixMs)) unixMs

def rubyValue (ruby : List Bytes) : Json := array (ruby.map string)

def shortEventAssignments (shortEvent : EitShortEvent) : List (String × Json) := [
  ("eventName", string shortEvent.eventName),
  ("text", string shortEvent.text),
  ("languageCode", string shortEvent.languageCode)]

def genreAssignments (genre : EitGenre) : List (String × Json) := [
  ("contentNibbleLevel1", number genre.contentNibbleLevel1.toNat),
  ("contentNibbleLevel2", number genre.contentNibbleLevel2.toNat),
  ("userNibble1", number genre.userNibble1.toNat),
  ("userNibble2", number genre.userNibble2.toNat)]

def captionAssignments (record : CaptionRecord) : List (String × Json) := [
  ("type", string (ascii "caption")),
  ("time", optionalRfc3339Value record.timeMs),
  ("text", string record.text),
  ("ruby", rubyValue record.ruby),
  ("color", optionalValue string record.color),
  ("languageCode", optionalValue string record.languageCode)]

def eitAssignments (record : EitRecord) : List (String × Json) := [
  ("type", string (ascii "eit")),
  ("startTime", optionalRfc3339Value record.startTimeMs),
  ("durationSec", optionalValue (fun seconds => number seconds.toNat) record.durationSec),
  ("shortEvents", array (record.shortEvents.map fun shortEvent => assigned (shortEventAssignments shortEvent))),
  ("extendedText", string record.extendedText),
  ("genres", array (record.genres.map fun genre => assigned (genreAssignments genre))),
  ("section", string (ascii record.«section».toString)),
  ("version", number record.version.toNat),
  ("serviceId", number record.serviceId.toNat),
  ("transportStreamId", number record.transportStreamId.toNat),
  ("originalNetworkId", number record.originalNetworkId.toNat),
  ("eventId", number record.eventId.toNat)]

def diagnosticAssignments (record : DiagnosticRecord) : List (String × Json) :=
  ("type", string (ascii "diagnostic")) ::
    match record with
    | .captionDecodeError kind => [
      ("kind", string (ascii "captionDecodeError")),
      ("pid", number kind.pid.toNat)]
    | .reservedPmtPidCollision kind => [
      ("kind", string (ascii "reservedPmtPidCollision")),
      ("pid", number kind.pid.toNat)]
    | .pcrDiscontinuity kind => [
      ("kind", string (ascii "pcrDiscontinuity")),
      ("pid", number kind.pid.toNat),
      ("flagged", bool kind.flagged)]

def recordAssignments : OutputRecord → List (String × Json)
  | .caption record => captionAssignments record
  | .eit record => eitAssignments record
  | .diagnostic record => diagnosticAssignments record

/-- The value that is written. -/
def recordValue (record : OutputRecord) : Json := assigned (recordAssignments record)

/-! ## No key is used twice -/

/-- The keys of the assignments are different. -/
def DifferentKeys (assignments : List (String × Json)) : Prop :=
  (assignments.map fun assignment => ascii assignment.1).Nodup

theorem differentKeys_shortEvent (shortEvent : EitShortEvent) : DifferentKeys (shortEventAssignments shortEvent) := by
  show (["eventName", "text", "languageCode"].map ascii).Nodup
  decide

theorem differentKeys_genre (genre : EitGenre) : DifferentKeys (genreAssignments genre) := by
  show (["contentNibbleLevel1", "contentNibbleLevel2", "userNibble1", "userNibble2"].map ascii).Nodup
  decide

theorem differentKeys_record (record : OutputRecord) : DifferentKeys (recordAssignments record) := by
  cases record with
  | caption record =>
    show (["type", "time", "text", "ruby", "color", "languageCode"].map ascii).Nodup
    decide
  | eit record =>
    show (["type", "startTime", "durationSec", "shortEvents", "extendedText", "genres", "section", "version",
      "serviceId", "transportStreamId", "originalNetworkId", "eventId"].map ascii).Nodup
    decide
  | diagnostic record =>
    cases record with
    | captionDecodeError kind =>
      show (["type", "kind", "pid"].map ascii).Nodup
      decide
    | reservedPmtPidCollision kind =>
      show (["type", "kind", "pid"].map ascii).Nodup
      decide
    | pcrDiscontinuity kind =>
      show (["type", "kind", "pid", "flagged"].map ascii).Nodup
      decide

theorem uniqueKeys_optional {α : Type} {value : α → Json} (hvalue : ∀ a, (value a).UniqueKeys) (a : Option α) :
    (optionalValue value a).UniqueKeys := by
  cases a with
  | none => exact .null
  | some a => exact hvalue a

theorem uniqueKeys_array_map {α : Type} {value : α → Json} (hvalue : ∀ a, (value a).UniqueKeys) (items : List α) :
    (array (items.map value)).UniqueKeys := by
  refine .array fun item hitem => ?_
  obtain ⟨a, -, rfl⟩ := List.mem_map.mp hitem
  exact hvalue a

theorem uniqueKeys_shortEvent (shortEvent : EitShortEvent) :
    (assigned (shortEventAssignments shortEvent)).UniqueKeys := by
  refine uniqueKeys_assigned (differentKeys_shortEvent shortEvent) ?_
  simp only [shortEventAssignments, List.forall_mem_cons, List.not_mem_nil, false_imp_iff, implies_true, and_true]
  exact ⟨.string _, .string _, .string _⟩

theorem uniqueKeys_genre (genre : EitGenre) : (assigned (genreAssignments genre)).UniqueKeys := by
  refine uniqueKeys_assigned (differentKeys_genre genre) ?_
  simp only [genreAssignments, List.forall_mem_cons, List.not_mem_nil, false_imp_iff, implies_true, and_true]
  exact ⟨.number _, .number _, .number _, .number _⟩

theorem uniqueKeys_record (record : OutputRecord) : (recordValue record).UniqueKeys := by
  refine uniqueKeys_assigned (differentKeys_record record) ?_
  cases record with
  | caption record =>
    simp only [recordAssignments, captionAssignments, List.forall_mem_cons, List.not_mem_nil, false_imp_iff,
      implies_true, and_true]
    exact ⟨.string _, uniqueKeys_optional (fun _ => .string _) _, .string _, uniqueKeys_array_map .string _,
      uniqueKeys_optional .string _, uniqueKeys_optional .string _⟩
  | eit record =>
    simp only [recordAssignments, eitAssignments, List.forall_mem_cons, List.not_mem_nil, false_imp_iff,
      implies_true, and_true]
    exact ⟨.string _, uniqueKeys_optional (fun _ => .string _) _, uniqueKeys_optional (fun _ => .number _) _,
      uniqueKeys_array_map uniqueKeys_shortEvent _, .string _, uniqueKeys_array_map uniqueKeys_genre _, .string _,
      .number _, .number _, .number _, .number _, .number _⟩
  | diagnostic record =>
    cases record <;>
      simp only [recordAssignments, diagnosticAssignments, List.forall_mem_cons, List.not_mem_nil, false_imp_iff,
        implies_true, and_true]
    · exact ⟨.string _, .string _, .number _⟩
    · exact ⟨.string _, .string _, .number _, .bool _⟩
    · exact ⟨.string _, .string _, .number _⟩

/-! ## The line is the value written -/

section
variable [Jsoncons]

theorem write_optional {α : Type} (value : α → Json) (a : Option α) :
    (optionalValue value a).write = jsonOptional (fun a => (value a).write) a := by
  cases a <;> rfl

theorem write_shortEvent (shortEvent : EitShortEvent) :
    (assigned (shortEventAssignments shortEvent)).write = shortEventToJson shortEvent := by
  rw [write_assigned (differentKeys_shortEvent shortEvent)]
  rfl

theorem write_genre (genre : EitGenre) : (assigned (genreAssignments genre)).write = genreToJson genre := by
  rw [write_assigned (differentKeys_genre genre)]
  rfl

theorem toJsonLine_eq_write (record : OutputRecord) : toJsonLine record = (recordValue record).write := by
  rw [recordValue, write_assigned (differentKeys_record record)]
  cases record with
  | caption record =>
    simp only [recordAssignments, captionAssignments, List.map_cons, List.map_nil, rubyValue, write_array,
      List.map_map, optionalRfc3339Value, write_optional]
    rfl
  | eit record =>
    have hshort : (fun shortEvent => (assigned (shortEventAssignments shortEvent)).write) = shortEventToJson :=
      funext write_shortEvent
    have hgenre : (fun genre => (assigned (genreAssignments genre)).write) = genreToJson := funext write_genre
    simp only [recordAssignments, eitAssignments, List.map_cons, List.map_nil, write_array, List.map_map,
      optionalRfc3339Value, write_optional, Function.comp_def, hshort, hgenre]
    rfl
  | diagnostic record => cases record <;> rfl

end

/-! ## The value determines the record -/

theorem optionalValue_inj {α : Type} {value : α → Json} (hnull : ∀ a, value a ≠ null) {a a' : Option α}
    (hvalue : ∀ b ∈ a, ∀ b' ∈ a', value b = value b' → b = b') (h : optionalValue value a = optionalValue value a') :
    a = a' := by
  cases a with
  | none =>
    cases a' with
    | none => rfl
    | some b' => exact absurd h.symm (hnull b')
  | some b =>
    cases a' with
    | none => exact absurd h (hnull b)
    | some b' => rw [hvalue b rfl b' rfl h]

theorem string_injective : Function.Injective string := fun _ _ h => string.inj h

theorem optionalString_injective : Function.Injective (optionalValue string) :=
  fun _ _ => optionalValue_inj (fun _ h => by cases h) fun _ _ _ _ h => string_injective h

theorem durationValue_injective :
    Function.Injective (optionalValue fun seconds : UInt32 => number seconds.toNat) :=
  fun _ _ => optionalValue_inj (fun _ h => by cases h) fun _ _ _ _ h => UInt32.toNat_inj.mp (number.inj h)

theorem optionalRfc3339Value_inj {unixMs unixMs' : Option Int} (htime : ∀ t ∈ unixMs, FormattedTime t)
    (htime' : ∀ t ∈ unixMs', FormattedTime t) (h : optionalRfc3339Value unixMs = optionalRfc3339Value unixMs') :
    unixMs = unixMs' :=
  optionalValue_inj (fun _ h => by cases h)
    (fun t ht t' ht' heq => unixMsToRfc3339Jst_injOn (htime t ht) (htime' t' ht') (string.inj heq)) h

theorem array_map_injective {α : Type} {value : α → Json} (hvalue : Function.Injective value) :
    Function.Injective fun items : List α => array (items.map value) :=
  fun _ _ h => List.map_injective_iff.mpr hvalue (array.inj h)

/-- Equal objects have equal values at equal keys. -/
theorem assigned_inj {assignments assignments' : List (String × Json)} (hkeys : DifferentKeys assignments)
    (hkeys' : DifferentKeys assignments') (h : assigned assignments = assigned assignments') :
    (assignments.map fun assignment => (ascii assignment.1, assignment.2)) =
      assignments'.map fun assignment => (ascii assignment.1, assignment.2) := by
  rw [assigned_eq hkeys, assigned_eq hkeys'] at h
  exact object.inj h

theorem shortEvent_injective :
    Function.Injective fun shortEvent => assigned (shortEventAssignments shortEvent) := by
  rintro ⟨eventName, text, languageCode⟩ ⟨eventName', text', languageCode'⟩ h
  have hmembers := assigned_inj (differentKeys_shortEvent _) (differentKeys_shortEvent _) h
  simp only [shortEventAssignments, List.map_cons, List.map_nil, List.cons.injEq, Prod.mk.injEq, true_and, and_true,
    string.injEq] at hmembers
  obtain ⟨rfl, rfl, rfl⟩ := hmembers
  rfl

theorem genre_injective : Function.Injective fun genre => assigned (genreAssignments genre) := by
  rintro ⟨level1, level2, user1, user2⟩ ⟨level1', level2', user1', user2'⟩ h
  have hmembers := assigned_inj (differentKeys_genre _) (differentKeys_genre _) h
  simp only [genreAssignments, List.map_cons, List.map_nil, List.cons.injEq, Prod.mk.injEq, true_and, and_true,
    number.injEq, UInt8.toNat_inj] at hmembers
  obtain ⟨rfl, rfl, rfl, rfl⟩ := hmembers
  rfl

theorem section_injective : Function.Injective fun s : EitSection => ascii s.toString := by
  intro s s' h
  cases s <;> cases s' <;> first | rfl | exact absurd h (by decide)

/-- The times of the record are formatted as they should be. -/
def OutputRecord.FormattedTimes (record : OutputRecord) : Prop := ∀ unixMs ∈ record.timesMs, FormattedTime unixMs

theorem caption_inj {record record' : CaptionRecord} (htime : (OutputRecord.caption record).FormattedTimes)
    (htime' : (OutputRecord.caption record').FormattedTimes)
    (h : recordValue (.caption record) = recordValue (.caption record')) : record = record' := by
  obtain ⟨timeMs, text, ruby, color, languageCode⟩ := record
  obtain ⟨timeMs', text', ruby', color', languageCode'⟩ := record'
  have hmembers := assigned_inj (differentKeys_record _) (differentKeys_record _) h
  simp only [recordAssignments, captionAssignments, List.map_cons, List.map_nil, List.cons.injEq, Prod.mk.injEq,
    true_and, and_true, string.injEq] at hmembers
  obtain ⟨hsame, rfl, hruby, hcolor, hlanguage⟩ := hmembers
  obtain rfl := optionalRfc3339Value_inj (fun t ht => htime t (Option.mem_toList.mpr ht))
    (fun t ht => htime' t (Option.mem_toList.mpr ht)) hsame
  obtain rfl := array_map_injective string_injective hruby
  obtain rfl := optionalString_injective hcolor
  obtain rfl := optionalString_injective hlanguage
  rfl

theorem eit_inj {record record' : EitRecord} (htime : (OutputRecord.eit record).FormattedTimes)
    (htime' : (OutputRecord.eit record').FormattedTimes) (h : recordValue (.eit record) = recordValue (.eit record')) :
    record = record' := by
  obtain ⟨start, duration, shortEvents, extendedText, genres, s, version, sid, tsid, onid, eid⟩ := record
  obtain ⟨start', duration', shortEvents', extendedText', genres', s', version', sid', tsid', onid', eid'⟩ := record'
  have hmembers := assigned_inj (differentKeys_record _) (differentKeys_record _) h
  simp only [recordAssignments, eitAssignments, List.map_cons, List.map_nil, List.cons.injEq, Prod.mk.injEq,
    true_and, and_true, string.injEq, number.injEq, UInt8.toNat_inj, UInt16.toNat_inj] at hmembers
  obtain ⟨hstart, hduration, hshort, rfl, hgenres, hsection, rfl, rfl, rfl, rfl, rfl⟩ := hmembers
  obtain rfl := optionalRfc3339Value_inj (fun t ht => htime t (Option.mem_toList.mpr ht))
    (fun t ht => htime' t (Option.mem_toList.mpr ht)) hstart
  obtain rfl := durationValue_injective hduration
  obtain rfl := array_map_injective shortEvent_injective hshort
  obtain rfl := array_map_injective genre_injective hgenres
  obtain rfl := section_injective hsection
  rfl

/-- What `kind` is. -/
def kindName : DiagnosticRecord → String
  | .captionDecodeError _ => "captionDecodeError"
  | .pcrDiscontinuity _ => "pcrDiscontinuity"
  | .reservedPmtPidCollision _ => "reservedPmtPidCollision"

theorem kindName_eq {record record' : DiagnosticRecord}
    (h : recordValue (.diagnostic record) = recordValue (.diagnostic record')) :
    ascii (kindName record) = ascii (kindName record') := by
  have hmembers := congrArg (fun members => members.tail.head?)
    (assigned_inj (differentKeys_record _) (differentKeys_record _) h)
  cases record <;> cases record' <;> exact string.inj (Prod.mk.inj (Option.some.inj hmembers)).2

theorem diagnostic_injective {record record' : DiagnosticRecord}
    (h : recordValue (.diagnostic record) = recordValue (.diagnostic record')) : record = record' := by
  have hkind := kindName_eq h
  have hdecodePcr : ascii "captionDecodeError" ≠ ascii "pcrDiscontinuity" := by decide
  have hdecodePmt : ascii "captionDecodeError" ≠ ascii "reservedPmtPidCollision" := by decide
  have hpcrPmt : ascii "pcrDiscontinuity" ≠ ascii "reservedPmtPidCollision" := by decide
  have hmembers := assigned_inj (differentKeys_record _) (differentKeys_record _) h
  cases record with
  | captionDecodeError kind =>
    cases record' with
    | captionDecodeError kind' =>
      obtain ⟨pid⟩ := kind
      obtain ⟨pid'⟩ := kind'
      simp only [recordAssignments, diagnosticAssignments, List.map_cons, List.map_nil, List.cons.injEq,
        Prod.mk.injEq, true_and, and_true, number.injEq, UInt16.toNat_inj] at hmembers
      rw [hmembers]
    | pcrDiscontinuity kind' => exact absurd hkind hdecodePcr
    | reservedPmtPidCollision kind' => exact absurd hkind hdecodePmt
  | pcrDiscontinuity kind =>
    cases record' with
    | captionDecodeError kind' => exact absurd hkind hdecodePcr.symm
    | pcrDiscontinuity kind' =>
      obtain ⟨pid, flagged⟩ := kind
      obtain ⟨pid', flagged'⟩ := kind'
      simp only [recordAssignments, diagnosticAssignments, List.map_cons, List.map_nil, List.cons.injEq,
        Prod.mk.injEq, true_and, and_true, number.injEq, UInt16.toNat_inj, bool.injEq] at hmembers
      rw [hmembers.1, hmembers.2]
    | reservedPmtPidCollision kind' => exact absurd hkind hpcrPmt
  | reservedPmtPidCollision kind =>
    cases record' with
    | captionDecodeError kind' => exact absurd hkind hdecodePmt.symm
    | pcrDiscontinuity kind' => exact absurd hkind hpcrPmt.symm
    | reservedPmtPidCollision kind' =>
      obtain ⟨pid⟩ := kind
      obtain ⟨pid'⟩ := kind'
      simp only [recordAssignments, diagnosticAssignments, List.map_cons, List.map_nil, List.cons.injEq,
        Prod.mk.injEq, true_and, and_true, number.injEq, UInt16.toNat_inj] at hmembers
      rw [hmembers]

/-- What `type` is. -/
def typeName : OutputRecord → String
  | .caption _ => "caption"
  | .eit _ => "eit"
  | .diagnostic _ => "diagnostic"

theorem typeName_eq {record record' : OutputRecord} (h : recordValue record = recordValue record') :
    ascii (typeName record) = ascii (typeName record') := by
  have hmembers := congrArg List.head? (assigned_inj (differentKeys_record _) (differentKeys_record _) h)
  cases record <;> cases record' <;> exact string.inj (Prod.mk.inj (Option.some.inj hmembers)).2

/-- **The value determines the record.** -/
theorem recordValue_inj {record record' : OutputRecord} (htime : record.FormattedTimes)
    (htime' : record'.FormattedTimes) (h : recordValue record = recordValue record') : record = record' := by
  have htype := typeName_eq h
  have hcaptionEit : ascii "caption" ≠ ascii "eit" := by decide
  have hcaptionDiagnostic : ascii "caption" ≠ ascii "diagnostic" := by decide
  have heitDiagnostic : ascii "eit" ≠ ascii "diagnostic" := by decide
  cases record with
  | caption record =>
    cases record' with
    | caption record' => exact congrArg _ (caption_inj htime htime' h)
    | eit record' => exact absurd htype hcaptionEit
    | diagnostic record' => exact absurd htype hcaptionDiagnostic
  | eit record =>
    cases record' with
    | caption record' => exact absurd htype hcaptionEit.symm
    | eit record' => exact congrArg _ (eit_inj htime htime' h)
    | diagnostic record' => exact absurd htype heitDiagnostic
  | diagnostic record =>
    cases record' with
    | caption record' => exact absurd htype hcaptionDiagnostic.symm
    | eit record' => exact absurd htype heitDiagnostic.symm
    | diagnostic record' => exact congrArg _ (diagnostic_injective h)

/-! ## Top theorem -/

theorem toJsonLine_inj [Jsoncons] (hserialises : SerialisesDistinctly) {record record' : OutputRecord}
    (htime : record.FormattedTimes) (htime' : record'.FormattedTimes) (h : toJsonLine record = toJsonLine record') :
    record = record' := by
  rw [toJsonLine_eq_write, toJsonLine_eq_write] at h
  exact recordValue_inj htime htime' (hserialises _ _ (uniqueKeys_record record) (uniqueKeys_record record') h)

/-- **Nothing is lost in a line.** -/
theorem toJsonLine_injOn [Jsoncons] (hserialises : SerialisesDistinctly) :
    Set.InjOn toJsonLine {record | ∀ unixMs ∈ record.timesMs, FormattedTime unixMs} :=
  fun _ htime _ htime' h => toJsonLine_inj hserialises htime htime' h

/-- No colour, and a colour named `null`. -/
theorem toJsonLine_injOn_null :
    @toJsonLine Jsoncons.documented (.caption ⟨some 0, [], [], none, none⟩) ≠
      @toJsonLine Jsoncons.documented (.caption ⟨some 0, [], [], some (ascii "null"), none⟩) := by
  intro h
  have htime : FormattedTime 0 := ⟨by decide, by decide⟩
  have hrange : ∀ color, ∀ unixMs ∈ (OutputRecord.caption ⟨some 0, [], [], color, none⟩).timesMs,
      FormattedTime unixMs := by
    intro color unixMs hmem
    rw [OutputRecord.timesMs, Option.toList_some, List.mem_singleton] at hmem
    rwa [hmem]
  have hsame := @toJsonLine_injOn Jsoncons.documented serialisesDistinctly_documented _ (hrange none) _
    (hrange (some (ascii "null"))) h
  cases hsame

end AribcapDump
