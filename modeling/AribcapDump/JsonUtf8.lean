import AribcapDump.JsonLine
import AribcapDump.Lib.Utf8
import AribcapDump.Rfc3339

/-!
# Lines in UTF-8

* `valid_toJsonLine_iff`: a line is valid UTF-8 exactly when the strings of its record are.
* `noControl_toJsonLine`: a line holds no control character, so no newline.
-/

namespace AribcapDump

open Utf8

/-! ## Strings and lists in JSON -/

section
variable [Jsoncons]

theorem escape_ascii (hescape : EscapeSpec) (b : UInt8) (hb : b.toNat < 0x80) :
    Jsoncons.escape b ≠ [] ∧ Ascii (Jsoncons.escape b) := by
  cases hmust : mustEscape b with
  | true =>
    refine ⟨(hescape.escapes b hmust).1, fun e he => ?_⟩
    have hprintable := (hescape.escapes b hmust).2 e he
    omega
  | false =>
    rw [hescape.copies b hmust]
    exact ⟨List.cons_ne_nil b [], ascii_singleton hb⟩

theorem escape_kept (hescape : EscapeSpec) (b : UInt8) (hb : ¬ b.toNat < 0x80) : Jsoncons.escape b = [b] := by
  apply hescape.copies
  have hne : ∀ c : UInt8, c.toNat < 0x80 → (b == c) = false := by
    intro c hc
    rw [beq_eq_false_iff_ne]
    rintro rfl
    exact hb hc
  unfold mustEscape
  rw [hne 34 (by decide), hne 92 (by decide), hne 0x7F (by decide), Bool.or_false, Bool.or_false, Bool.or_false,
    decide_eq_false_iff_not]
  omega

theorem valid_jsonString_iff (hescape : EscapeSpec) (s : Bytes) : Valid (jsonString s) ↔ Valid s := by
  have hquote : Ascii [34] := by decide
  unfold jsonString
  rw [List.cons_append, ← List.singleton_append, valid_append_iff (valid_ascii hquote),
    valid_append_ascii_iff hquote, valid_escape_iff (escape_ascii hescape) (escape_kept hescape)]

omit [Jsoncons] in
theorem jsonList_cons_cons (item next : Bytes) (items : List Bytes) :
    jsonList (item :: next :: items) = item ++ 44 :: jsonList (next :: items) := by
  simp [jsonList]

omit [Jsoncons] in
theorem valid_jsonList_iff (items : List Bytes) : Valid (jsonList items) ↔ ∀ item ∈ items, Valid item := by
  induction items with
  | nil => simp [jsonList, valid_nil]
  | cons item items ih =>
    cases items with
    | nil => simp [jsonList]
    | cons next items =>
      rw [jsonList_cons_cons, valid_append_cons_iff (by decide), ih, List.forall_mem_cons (a := item)]

omit [Jsoncons] in
theorem valid_jsonArray_iff (items : List Bytes) : Valid (jsonArray items) ↔ ∀ item ∈ items, Valid item := by
  have hclose : Ascii [93] := by decide
  unfold jsonArray
  rw [List.cons_append, ← List.singleton_append, valid_append_iff (valid_ascii (ascii_singleton (by decide))),
    valid_append_ascii_iff hclose, valid_jsonList_iff]

/-- The keys are literals. -/
def asciiKeys (members : List (String × Bytes)) : Bool :=
  (members.map Prod.fst).all fun key => decide (Ascii (ascii key))

theorem valid_jsonObject_iff (hescape : EscapeSpec) {members : List (String × Bytes)}
    (hkeys : asciiKeys members = true) : Valid (jsonObject members) ↔ ∀ member ∈ members, Valid member.2 := by
  have hclose : Ascii [125] := by decide
  have hkey : ∀ member ∈ members, Valid (ascii member.1) := by
    intro member hmember
    unfold asciiKeys at hkeys
    rw [List.all_map, List.all_eq_true] at hkeys
    exact valid_ascii (of_decide_eq_true (hkeys member hmember))
  unfold jsonObject
  rw [List.cons_append, ← List.singleton_append, valid_append_iff (valid_ascii (ascii_singleton (by decide))),
    valid_append_ascii_iff hclose, valid_jsonList_iff, List.forall_mem_map]
  constructor
  · intro h member hmember
    exact ((valid_append_cons_iff (by decide)).mp (h member hmember)).2
  · intro h member hmember
    rw [valid_append_cons_iff (by decide), valid_jsonString_iff hescape]
    exact ⟨hkey member hmember, h member hmember⟩

omit [Jsoncons] in
theorem valid_jsonNull : Valid jsonNull := by
  have hascii : Ascii (ascii "null") := by decide
  exact valid_ascii hascii

theorem valid_jsonOptional_iff (hescape : EscapeSpec) (s : Option Bytes) :
    Valid (jsonOptional jsonString s) ↔ ∀ value ∈ s, Valid value := by
  cases s with
  | none => simp [jsonOptional, valid_jsonNull]
  | some value =>
    rw [jsonOptional, valid_jsonString_iff hescape]
    simp

end

/-! ## Times and numbers -/

theorem ascii_of_isDigit {bs : Bytes} (h : ∀ b ∈ bs, IsDigit b) : Ascii bs :=
  fun b hb => Nat.lt_of_le_of_lt (h b hb).2 (by decide)

theorem ascii_jsonNumber (n : ℕ) : Ascii (jsonNumber n) := ascii_of_isDigit fun _ hb => isDigit_of_mem_digits hb

theorem ascii_paddedDecimal (width n : ℕ) : Ascii (paddedDecimal width n) :=
  ascii_of_isDigit (isDigit_paddedDecimal width n)

theorem ascii_formatDate (date : CivilDate) : Ascii (formatDate date) := by
  have hpart : ∀ n, Ascii (45 :: paddedDecimal 2 n) := fun n => (ascii_paddedDecimal 2 n).cons (by decide)
  unfold formatDate
  refine ((Ascii.append ?_ (ascii_paddedDecimal 4 _)).append (hpart _)).append (hpart _)
  split <;> decide

theorem ascii_formatTime (ms : ℕ) : Ascii (formatTime ms) := by
  have hpart : ∀ n, Ascii (58 :: paddedDecimal 2 n) := fun n => (ascii_paddedDecimal 2 n).cons (by decide)
  unfold formatTime
  exact (((ascii_paddedDecimal 2 _).append (hpart _)).append (hpart _)).append
    ((ascii_paddedDecimal 3 _).cons (by decide))

theorem ascii_unixMsToRfc3339Jst (unixMs : Int) : Ascii (unixMsToRfc3339Jst unixMs) := by
  unfold unixMsToRfc3339Jst
  exact ((ascii_formatDate _).append ((ascii_formatTime _).cons (by decide))).append (by decide)

/-! ## The strings of a record -/

/-- The strings a record holds. -/
def OutputRecord.strings : OutputRecord → List Bytes
  | .caption record => record.text :: (record.ruby ++ (record.color.toList ++ record.languageCode.toList))
  | .eit record =>
    record.extendedText :: record.shortEvents.flatMap fun shortEvent =>
      [shortEvent.eventName, shortEvent.text, shortEvent.languageCode]
  | .diagnostic _ => []

/-- No byte is a control character, a newline among them. -/
def NoControl (bs : Bytes) : Prop := ∀ b ∈ bs, 0x20 ≤ b.toNat

instance (bs : Bytes) : Decidable (NoControl bs) := List.decidableBAll _ bs

section
variable [Jsoncons]

theorem valid_literal (hescape : EscapeSpec) {s : String} (hs : Ascii (ascii s)) : Valid (jsonString (ascii s)) :=
  (valid_jsonString_iff hescape _).mpr (valid_ascii hs)

omit [Jsoncons] in
theorem valid_jsonNumber (n : ℕ) : Valid (jsonNumber n) := valid_ascii (ascii_jsonNumber n)

theorem valid_jsonOptionalRfc3339 (hescape : EscapeSpec) (unixMs : Option Int) :
    Valid (jsonOptionalRfc3339 unixMs) := by
  cases unixMs with
  | none => exact valid_jsonNull
  | some unixMs => exact (valid_jsonString_iff hescape _).mpr (valid_ascii (ascii_unixMsToRfc3339Jst unixMs))

theorem valid_captionToJson_iff (hescape : EscapeSpec) (record : CaptionRecord) :
    Valid (captionToJson record) ↔ ∀ s ∈ (OutputRecord.caption record).strings, Valid s := by
  have htype : Valid (jsonString (ascii "caption")) := valid_literal hescape (by decide)
  have htime := valid_jsonOptionalRfc3339 hescape record.timeMs
  unfold captionToJson
  rw [valid_jsonObject_iff hescape (by simp only [asciiKeys, List.map_cons, List.map_nil]; decide)]
  simp only [List.forall_mem_cons, OutputRecord.strings, List.forall_mem_append, htype, htime,
    valid_jsonString_iff hescape, rubyToJson, valid_jsonArray_iff, List.forall_mem_map, valid_jsonOptional_iff hescape,
    true_and, List.not_mem_nil, false_imp_iff, implies_true, and_true, Option.mem_toList, Option.mem_def]

theorem valid_shortEventToJson_iff (hescape : EscapeSpec) (shortEvent : EitShortEvent) :
    Valid (shortEventToJson shortEvent) ↔
      ∀ s ∈ [shortEvent.eventName, shortEvent.text, shortEvent.languageCode], Valid s := by
  unfold shortEventToJson
  rw [valid_jsonObject_iff hescape (by simp only [asciiKeys, List.map_cons, List.map_nil]; decide)]
  simp only [List.forall_mem_cons, valid_jsonString_iff hescape]
  simp

theorem valid_genreToJson (hescape : EscapeSpec) (genre : EitGenre) : Valid (genreToJson genre) := by
  unfold genreToJson
  rw [valid_jsonObject_iff hescape (by simp only [asciiKeys, List.map_cons, List.map_nil]; decide)]
  simp [valid_jsonNumber]

theorem valid_eitToJson_iff (hescape : EscapeSpec) (record : EitRecord) :
    Valid (eitToJson record) ↔ ∀ s ∈ (OutputRecord.eit record).strings, Valid s := by
  have htype : Valid (jsonString (ascii "eit")) := valid_literal hescape (by decide)
  have htime := valid_jsonOptionalRfc3339 hescape record.startTimeMs
  have hsection : Valid (jsonString (ascii record.«section».toString)) := by
    apply valid_literal hescape
    cases record.«section» <;> decide
  have hduration : Valid (jsonOptional (fun seconds : UInt32 => jsonNumber seconds.toNat) record.durationSec) := by
    cases record.durationSec with
    | none => exact valid_jsonNull
    | some seconds => exact valid_jsonNumber seconds.toNat
  have hgenres : Valid (jsonArray (record.genres.map genreToJson)) := by
    rw [valid_jsonArray_iff, List.forall_mem_map]
    exact fun genre _ => valid_genreToJson hescape genre
  have hshortEvents : Valid (jsonArray (record.shortEvents.map shortEventToJson)) ↔
      ∀ s ∈ record.shortEvents.flatMap fun shortEvent =>
        [shortEvent.eventName, shortEvent.text, shortEvent.languageCode], Valid s := by
    rw [valid_jsonArray_iff, List.forall_mem_map, List.forall_mem_flatMap]
    exact forall₂_congr fun shortEvent _ => valid_shortEventToJson_iff hescape shortEvent
  unfold eitToJson
  rw [valid_jsonObject_iff hescape (by simp only [asciiKeys, List.map_cons, List.map_nil]; decide)]
  simp only [List.forall_mem_cons, OutputRecord.strings, htype, htime, hsection, hduration, hgenres, hshortEvents,
    valid_jsonNumber, valid_jsonString_iff hescape, true_and, List.not_mem_nil, false_imp_iff, implies_true, and_true]
  exact and_comm

theorem valid_diagnosticToJson (hescape : EscapeSpec) (record : DiagnosticRecord) :
    Valid (diagnosticToJson record) := by
  have hflagged : ∀ value, Valid (jsonBool value) := by
    intro value
    apply valid_ascii
    cases value <;> decide
  unfold diagnosticToJson
  cases record with
  | captionDecodeError kind =>
    rw [valid_jsonObject_iff hescape (by simp only [asciiKeys, List.map_cons, List.map_nil]; decide)]
    simp only [List.forall_mem_cons]
    exact ⟨valid_literal hescape (by decide), valid_literal hescape (by decide), valid_jsonNumber _, by simp⟩
  | reservedPmtPidCollision kind =>
    rw [valid_jsonObject_iff hescape (by simp only [asciiKeys, List.map_cons, List.map_nil]; decide)]
    simp only [List.forall_mem_cons]
    exact ⟨valid_literal hescape (by decide), valid_literal hescape (by decide), valid_jsonNumber _, by simp⟩
  | pcrDiscontinuity kind =>
    rw [valid_jsonObject_iff hescape (by simp only [asciiKeys, List.map_cons, List.map_nil]; decide)]
    simp only [List.forall_mem_cons]
    exact ⟨valid_literal hescape (by decide), valid_literal hescape (by decide), valid_jsonNumber _, hflagged _,
      by simp⟩

/-- **A line is valid exactly when the strings of its record are.** -/
theorem valid_toJsonLine_iff (hescape : EscapeSpec) (record : OutputRecord) :
    Valid (toJsonLine record) ↔ ∀ s ∈ record.strings, Valid s := by
  cases record with
  | caption record => exact valid_captionToJson_iff hescape record
  | eit record => exact valid_eitToJson_iff hescape record
  | diagnostic record => exact ⟨fun _ s hs => (by cases hs), fun _ => valid_diagnosticToJson hescape record⟩

/-! ## Control characters -/

omit [Jsoncons] in
theorem NoControl.append {xs ys : Bytes} (hx : NoControl xs) (hy : NoControl ys) : NoControl (xs ++ ys) :=
  List.forall_mem_append.mpr ⟨hx, hy⟩

omit [Jsoncons] in
theorem NoControl.cons {x : UInt8} {xs : Bytes} (hx : 0x20 ≤ x.toNat) (hxs : NoControl xs) : NoControl (x :: xs) :=
  List.forall_mem_cons.mpr ⟨hx, hxs⟩

theorem noControl_jsonString (hescape : EscapeSpec) (s : Bytes) : NoControl (jsonString s) := by
  have hbyte : ∀ b, NoControl (Jsoncons.escape b) := by
    intro b
    cases hmust : mustEscape b with
    | true => exact fun e he => ((hescape.escapes b hmust).2 e he).1
    | false =>
      rw [hescape.copies b hmust]
      intro e he
      rw [List.mem_singleton.mp he]
      unfold mustEscape at hmust
      simp only [Bool.or_eq_false_iff, decide_eq_false_iff_not] at hmust
      omega
  unfold jsonString
  exact NoControl.append (.cons (by decide) fun e he => by
    obtain ⟨b, -, he⟩ := List.mem_flatMap.mp he
    exact hbyte b e he) (by decide)

omit [Jsoncons] in
theorem noControl_jsonNumber (n : ℕ) : NoControl (jsonNumber n) := by
  intro b hb
  have hdigit := isDigit_of_mem_digits hb
  unfold IsDigit at hdigit
  omega

omit [Jsoncons] in
theorem noControl_jsonList {items : List Bytes} (h : ∀ item ∈ items, NoControl item) : NoControl (jsonList items) := by
  induction items with
  | nil => exact fun b hb => (by cases hb)
  | cons item items ih =>
    obtain ⟨hitem, hitems⟩ := List.forall_mem_cons.mp h
    cases items with
    | nil =>
      rw [jsonList, List.flatMap_nil, List.append_nil]
      exact hitem
    | cons next items =>
      rw [jsonList_cons_cons]
      exact hitem.append ((ih hitems).cons (by decide))

omit [Jsoncons] in
theorem noControl_jsonArray {items : List Bytes} (h : ∀ item ∈ items, NoControl item) : NoControl (jsonArray items) :=
  ((noControl_jsonList h).cons (by decide)).append (by decide)

theorem noControl_jsonObject (hescape : EscapeSpec) {members : List (String × Bytes)}
    (h : ∀ member ∈ members, NoControl member.2) : NoControl (jsonObject members) := by
  refine ((noControl_jsonList ?_).cons (by decide)).append (by decide)
  rw [List.forall_mem_map]
  exact fun member hmember => (noControl_jsonString hescape _).append ((h member hmember).cons (by decide))

omit [Jsoncons] in
theorem noControl_jsonOptional {α : Type} {write : α → Bytes} (h : ∀ value, NoControl (write value))
    (value : Option α) : NoControl (jsonOptional write value) := by
  cases value with
  | none =>
    rw [jsonOptional, jsonNull]
    decide
  | some value => exact h value

omit [Jsoncons] in
theorem noControl_jsonArray_map {α : Type} {write : α → Bytes} (h : ∀ item, NoControl (write item)) (items : List α) :
    NoControl (jsonArray (items.map write)) := by
  apply noControl_jsonArray
  rw [List.forall_mem_map]
  exact fun item _ => h item

omit [Jsoncons] in
theorem noControl_jsonBool (value : Bool) : NoControl (jsonBool value) := by
  cases value <;> decide

theorem noControl_jsonOptionalRfc3339 (hescape : EscapeSpec) (unixMs : Option Int) :
    NoControl (jsonOptionalRfc3339 unixMs) :=
  noControl_jsonOptional (fun _ => noControl_jsonString hescape _) unixMs

theorem noControl_captionToJson (hescape : EscapeSpec) (record : CaptionRecord) :
    NoControl (captionToJson record) := by
  have hstring := noControl_jsonString hescape
  apply noControl_jsonObject hescape
  simp only [List.forall_mem_cons]
  exact ⟨hstring _, noControl_jsonOptionalRfc3339 hescape _, hstring _, noControl_jsonArray_map hstring _,
    noControl_jsonOptional hstring _, noControl_jsonOptional hstring _, by simp⟩

theorem noControl_shortEventToJson (hescape : EscapeSpec) (shortEvent : EitShortEvent) :
    NoControl (shortEventToJson shortEvent) := by
  have hstring := noControl_jsonString hescape
  apply noControl_jsonObject hescape
  simp only [List.forall_mem_cons]
  exact ⟨hstring _, hstring _, hstring _, by simp⟩

theorem noControl_genreToJson (hescape : EscapeSpec) (genre : EitGenre) : NoControl (genreToJson genre) := by
  have hnumber := noControl_jsonNumber
  apply noControl_jsonObject hescape
  simp only [List.forall_mem_cons]
  exact ⟨hnumber _, hnumber _, hnumber _, hnumber _, by simp⟩

theorem noControl_eitToJson (hescape : EscapeSpec) (record : EitRecord) : NoControl (eitToJson record) := by
  have hstring := noControl_jsonString hescape
  have hnumber := noControl_jsonNumber
  have hshortEvents := noControl_jsonArray_map (noControl_shortEventToJson hescape) record.shortEvents
  have hgenres := noControl_jsonArray_map (noControl_genreToJson hescape) record.genres
  apply noControl_jsonObject hescape
  simp only [List.forall_mem_cons]
  exact ⟨hstring _, noControl_jsonOptionalRfc3339 hescape _, noControl_jsonOptional (fun _ => hnumber _) _,
    hshortEvents, hstring _, hgenres, hstring _, hnumber _, hnumber _, hnumber _, hnumber _, hnumber _, by simp⟩

theorem noControl_diagnosticToJson (hescape : EscapeSpec) (record : DiagnosticRecord) :
    NoControl (diagnosticToJson record) := by
  have hstring := noControl_jsonString hescape
  have hnumber := noControl_jsonNumber
  apply noControl_jsonObject hescape
  cases record with
  | captionDecodeError kind =>
    simp only [List.forall_mem_cons]
    exact ⟨hstring _, hstring _, hnumber _, by simp⟩
  | reservedPmtPidCollision kind =>
    simp only [List.forall_mem_cons]
    exact ⟨hstring _, hstring _, hnumber _, by simp⟩
  | pcrDiscontinuity kind =>
    simp only [List.forall_mem_cons]
    exact ⟨hstring _, hstring _, hnumber _, noControl_jsonBool _, by simp⟩

/-- **A line holds no control character**, whatever its record. -/
theorem noControl_toJsonLine (hescape : EscapeSpec) (record : OutputRecord) : NoControl (toJsonLine record) := by
  cases record with
  | caption record => exact noControl_captionToJson hescape record
  | eit record => exact noControl_eitToJson hescape record
  | diagnostic record => exact noControl_diagnosticToJson hescape record

theorem newline_notMem_toJsonLine (hescape : EscapeSpec) (record : OutputRecord) : 10 ∉ toJsonLine record := by
  intro h
  exact absurd (noControl_toJsonLine hescape record 10 h) (by decide)

end

end AribcapDump
