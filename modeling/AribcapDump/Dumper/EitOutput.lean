import AribcapDump.Dumper.CaptionDumper

/-!
# The EIT records of a whole run

What a run of EIT tables through `HandleEit` emits, from the tables alone: the
tables of the service that change its version, the first two events of each, and
of their records those the output mode selects.

* `handleEit_run`: the records, their labels, and how the modes are related.
-/

namespace AribcapDump

/-- A valid EIT of the service. -/
def isEitOf (targetSid : UInt16) (table : BinaryTable) : Bool :=
  table.isValid && table.tableIdExtension == targetSid && table.eit.isValid

/-- The record is an EIT record of the section. -/
def OutputRecord.inSection («section» : EitSection) : OutputRecord → Bool
  | .eit record => record.«section» == «section»
  | _ => false

variable [TSDuck]

/-- The records of the first two events of a table. -/
def tableRecords (table : BinaryTable) : List EitRecord :=
  (table.eit.events.take 2).mapIdx (parseEvent (deserializeEit table))

/-! ## The labels -/

theorem section_tableRecords {table : BinaryTable} {i : ℕ} {record : EitRecord}
    (hrecord : (tableRecords table)[i]? = some record) :
    record.«section» = .kPresent ↔ i = 0 ∧ eitPresentSectionHasEvent table = true := by
  rw [tableRecords, List.getElem?_mapIdx] at hrecord
  obtain ⟨event, -, rfl⟩ := Option.map_eq_some_iff.mp hrecord
  exact section_parseEvent (deserializeEit table) i event

/-- All records after the first are `kFollowing`. -/
theorem section_tail_tableRecords {table : BinaryTable} {record : EitRecord}
    (hrecord : record ∈ (tableRecords table).tail) : record.«section» = .kFollowing := by
  obtain ⟨i, hi⟩ := List.mem_iff_getElem?.mp hrecord
  rw [List.getElem?_tail] at hi
  cases hlabel : record.«section» with
  | kFollowing => rfl
  | kPresent => exact absurd ((section_tableRecords hi).mp hlabel).1 (Nat.succ_ne_zero i)

/-! ## The emitter sees the tables of the service -/

namespace CaptionDumper

variable {δ : Type}

/-- The emitter is handed a valid EIT of the service, and nothing else. -/
theorem handleEit_eq (d : CaptionDumper δ) (table : BinaryTable) :
    d.handleEit table =
      if isEitOf d.targetSid table then
        ({ d with eitEmitter := (d.eitEmitter.handleEit (deserializeEit table)).1 },
          (d.eitEmitter.handleEit (deserializeEit table)).2.map .eit)
      else (d, []) := by
  unfold handleEit isEitOf
  cases hvalid : table.isValid with
  | false => simp
  | true =>
    by_cases hservice : table.tableIdExtension = d.targetSid
    · cases heit : table.eit.isValid <;> simp [hservice, heit, deserializeEit]
    · simp [hservice]

/-- What a run emits, from the emitter alone. -/
theorem answers_handleEit (d : CaptionDumper δ) (tables : List BinaryTable) :
    (Machine.answers handleEit d tables).flatten =
      ((Machine.answers EitRecordEmitter.handleEit d.eitEmitter
        ((tables.filter (isEitOf d.targetSid)).map deserializeEit)).flatten).map .eit := by
  have hsees : (tables.filter (isEitOf d.targetSid)).map deserializeEit =
      tables.filterMap fun table => if isEitOf d.targetSid table then some (deserializeEit table) else none := by
    rw [← List.filterMap_eq_map, List.filterMap_filter]
    rfl
  rw [hsees, List.map_flatten, ← List.flatMap_def]
  refine Machine.answers_part (P := fun d' : CaptionDumper δ => d'.targetSid = d.targetSid) handleEit
    (List.map OutputRecord.eit) ?_ ?_ ?_ rfl tables
  · intro d' table hsid
    rw [handleEit_eq]
    split <;> exact hsid
  · intro d' table hsid
    rw [handleEit_eq, hsid]
    split <;> rfl
  · intro d' table hsid
    rw [handleEit_eq, hsid]
    split <;> rfl

/-- The records emitted in a mode, from the tables. -/
theorem answers_handleEit_new (targetSid : UInt16) (emitEmptyCaptions : Bool) (mode : EitOutputMode)
    (makeDecoderFactory : Profile → CaptionDecoderFactory δ) (tables : List BinaryTable) :
    (Machine.answers handleEit (new targetSid ⟨emitEmptyCaptions, mode⟩ makeDecoderFactory) tables).flatten =
      ((Changes.changes BinaryTable.version (tables.filter (isEitOf targetSid))).flatMap fun table =>
        (tableRecords table).filter fun record => mode.selects record.«section»).map .eit := by
  rw [answers_handleEit]
  show ((Machine.answers EitRecordEmitter.handleEit ⟨mode, none⟩
    ((tables.filter (isEitOf targetSid)).map deserializeEit)).flatten).map OutputRecord.eit = _
  rw [emitted_eq, Changes.changes_map, List.flatMap_map]
  congr 1
  apply List.flatMap_congr
  intro table htable
  have hof := (List.mem_filter.mp (Changes.mem_of_mem_changes htable)).2
  unfold isEitOf at hof
  rw [Bool.and_eq_true] at hof
  rw [parseEit_eq _ hof.2]
  rfl

/-- **EIT emission over whole runs.**  The records are those of the first two events of each table of the service
that changes its version, filtered by the mode; only the first can be `kPresent`, and is exactly if the present
section carried an event; tables that are not of the service have no influence; and the outputs of `kPresent` and
`kFollowing` are the parts of the output of `kPresentFollowing`. -/
theorem handleEit_run (targetSid : UInt16) (emitEmptyCaptions : Bool)
    (makeDecoderFactory : Profile → CaptionDecoderFactory δ) :
    let output := fun mode tables =>
      (Machine.answers handleEit (new targetSid ⟨emitEmptyCaptions, mode⟩ makeDecoderFactory) tables).flatten
    (∀ mode tables, output mode tables =
      ((Changes.changes BinaryTable.version (tables.filter (isEitOf targetSid))).flatMap fun table =>
        (tableRecords table).filter fun record => mode.selects record.«section»).map .eit) ∧
    (∀ table (i : ℕ) record, (tableRecords table)[i]? = some record →
      (record.«section» = .kPresent ↔ i = 0 ∧ eitPresentSectionHasEvent table = true)) ∧
    (∀ table, ∀ record ∈ (tableRecords table).tail, record.«section» = .kFollowing) ∧
    (∀ mode tables, output mode (tables.filter (isEitOf targetSid)) = output mode tables) ∧
    (∀ tables, output .kPresent tables =
      (output .kPresentFollowing tables).filter (OutputRecord.inSection .kPresent)) ∧
    (∀ tables, output .kFollowing tables =
      (output .kPresentFollowing tables).filter (OutputRecord.inSection .kFollowing)) := by
  intro output
  have houtput : ∀ mode tables, output mode tables = _ := fun mode tables =>
    answers_handleEit_new targetSid emitEmptyCaptions mode makeDecoderFactory tables
  -- the records of a mode are a part of those of `kPresentFollowing`
  have hpart : ∀ (mode : EitOutputMode) («section» : EitSection) tables,
      (∀ s, mode.selects s = (s == «section»)) →
      output mode tables = (output .kPresentFollowing tables).filter (OutputRecord.inSection «section») := by
    intro mode «section» tables hselects
    rw [houtput, houtput, List.filter_map, List.filter_flatMap]
    congr 1
    apply List.flatMap_congr
    intro table _
    rw [List.filter_filter]
    apply List.filter_congr
    intro record _
    rw [hselects]
    simp [OutputRecord.inSection, EitOutputMode.selects]
  refine ⟨houtput, fun _ _ _ => section_tableRecords, fun _ _ => section_tail_tableRecords, ?_, ?_, ?_⟩
  · intro mode tables
    rw [houtput, houtput, List.filter_filter]
    simp only [Bool.and_self]
  · exact fun tables => hpart .kPresent .kPresent tables fun s => (by cases s <;> rfl)
  · exact fun tables => hpart .kFollowing .kFollowing tables fun s => (by cases s <;> rfl)

end CaptionDumper

end AribcapDump
