import AribcapDump.Eit.EitParser
import AribcapDump.Lib.Changes
import AribcapDump.Lib.Machine

/-!
# Emitting EIT records

`EitRecordEmitter` of core/eit_record_emitter: the records of a table are
emitted when its version differs from that of the table before it, and only
those of the sections the output mode selects.

* `parseEit_eq`: the records of a table are those of its first two events.
* `emitted_eq`: what a run of tables emits.
-/

namespace AribcapDump

inductive EitOutputMode
  | kPresent
  | kFollowing
  | kPresentFollowing
deriving DecidableEq

structure EitRecordEmitter where
  outputMode : EitOutputMode := .kPresent
  lastEmittedVersion : Option UInt8 := none
deriving DecidableEq

/-- The mode selects records of the section. -/
def EitOutputMode.selects (mode : EitOutputMode) («section» : EitSection) : Bool :=
  mode == .kPresentFollowing || (mode == .kPresent && «section» == .kPresent) ||
    (mode == .kFollowing && «section» == .kFollowing)

section
variable [TSDuck]

def EitRecordEmitter.handleEit (emitter : EitRecordEmitter) (deserialized : DeserializedEit) :
    EitRecordEmitter × List EitRecord :=
  if emitter.lastEmittedVersion = some deserialized.version then (emitter, [])
  else
    ({ emitter with lastEmittedVersion := some deserialized.version },
      (parseEit deserialized).filter fun record => emitter.outputMode.selects record.«section»)

/-! ## The records of one table -/

theorem parseEvents_eq (deserialized : DeserializedEit) (events : List Event)
    (results : List EitRecord) : parseEvents deserialized events results =
      results ++ (events.take (2 - results.length)).mapIdx
        fun i event => parseEvent deserialized (results.length + i) event := by
  induction events generalizing results with
  | nil => simp [parseEvents]
  | cons event events ih =>
    rw [parseEvents]
    split
    · next hfull =>
      rw [Nat.sub_eq_zero_of_le hfull]
      simp
    · next hmore =>
      have hroom : 2 - results.length = (2 - (results.length + 1)) + 1 := by omega
      rw [ih, hroom, List.length_append, List.length_singleton, List.take_succ_cons, List.mapIdx_cons,
        List.append_assoc, List.singleton_append]
      simp only [Nat.add_zero, Nat.add_assoc, Nat.add_comm 1]

/-- **The records of a table are those of its first two events, in order.** -/
theorem parseEit_eq (deserialized : DeserializedEit) (hvalid : deserialized.eit.isValid = true) :
    parseEit deserialized = (deserialized.eit.events.take 2).mapIdx (parseEvent deserialized) := by
  rw [parseEit]
  split
  · next hnone =>
    rcases hnone with hinvalid | hempty
    · rw [hvalid] at hinvalid
      cases hinvalid
    · rw [hempty]
      rfl
  · rw [parseEvents_eq]
    simp

/-- The record of an event is `kPresent` iff it is the first and the present section carried an event. -/
theorem section_parseEvent (deserialized : DeserializedEit) (i : ℕ) (event : Event) :
    (parseEvent deserialized i event).«section» = .kPresent ↔ i = 0 ∧ deserialized.presentSectionHasEvent = true := by
  simp only [parseEvent, getSectionKind]
  by_cases hlabel : deserialized.presentSectionHasEvent = true ∧ i = 0
  · rw [if_pos hlabel]
    exact ⟨fun _ => ⟨hlabel.2, hlabel.1⟩, fun _ => rfl⟩
  · rw [if_neg hlabel]
    constructor
    · intro h
      cases h
    · intro h
      exact absurd ⟨h.2, h.1⟩ hlabel

/-! ## Runs -/

/-- What a run of tables emits, from any state. -/
theorem emitted_eq_changesFrom (emitter : EitRecordEmitter) (tables : List DeserializedEit) :
    (Machine.answers EitRecordEmitter.handleEit emitter tables).flatten =
      (Changes.changesFrom DeserializedEit.version emitter.lastEmittedVersion tables).flatMap
        fun table => (parseEit table).filter fun record => emitter.outputMode.selects record.«section» := by
  induction tables generalizing emitter with
  | nil => rfl
  | cons table tables ih =>
    rw [Machine.answers_cons, List.flatten_cons, ih, Changes.changesFrom]
    by_cases hsame : emitter.lastEmittedVersion = some table.version
    · simp [EitRecordEmitter.handleEit, hsame]
    · simp [EitRecordEmitter.handleEit, hsame]

/-- **A fresh emitter emits the selected records of the tables that change the version.** -/
theorem emitted_eq (mode : EitOutputMode) (tables : List DeserializedEit) :
    (Machine.answers EitRecordEmitter.handleEit ⟨mode, none⟩ tables).flatten =
      (Changes.changes DeserializedEit.version tables).flatMap
        fun table => (parseEit table).filter fun record => mode.selects record.«section» := by
  rw [emitted_eq_changesFrom, Changes.changes_eq]

end

end AribcapDump
