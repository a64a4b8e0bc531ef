import AribcapDump.JsonLossless
import AribcapDump.JsonUtf8
import AribcapDump.Lib.OStream
import Mathlib.Data.List.Induction

/-!
# JSONL output

`JsonlOutputRecordSink` of core/output_record_sink: every record is a line on an
output stream, flushed at once.  The sink does not look at the stream; whether a
write failed is the stream's state.

* `emitAll_spec`: a good stream has got every line; any stream has sent the first part of them.
* `jsonl_readBack`: the records are read back from whatever was written of them.
-/

namespace AribcapDump

variable [Jsoncons]

/-- A record as a line. -/
def jsonlLine (record : OutputRecord) : Bytes := toJsonLine record ++ [10]

def jsonl (records : List OutputRecord) : Bytes := records.flatMap jsonlLine

namespace JsonlOutputRecordSink

variable (buf : StreamBuf UInt8)

/-- `Emit`. -/
def emit (stream : OStream UInt8) (record : OutputRecord) : OStream UInt8 :=
  ((stream.insert buf (toJsonLine record)).insert buf [10]).flush buf

def emitAll (stream : OStream UInt8) (records : List OutputRecord) : OStream UInt8 := records.foldl (emit buf) stream

/-- The operations of `Emit`. -/
def emitOps (record : OutputRecord) : List (OStream.Op UInt8) := [.insert (toJsonLine record), .insert [10], .flush]

theorem emitAll_eq_run (stream : OStream UInt8) (records : List OutputRecord) :
    emitAll buf stream records = stream.run buf (records.flatMap emitOps) := by
  induction records generalizing stream with
  | nil => rfl
  | cons record records ih =>
    rw [List.flatMap_cons, OStream.run_append, ← ih]
    rfl

theorem items_emitOps (records : List OutputRecord) :
    (records.flatMap emitOps).flatMap OStream.Op.items = jsonl records := by
  induction records with
  | nil => rfl
  | cons record records ih =>
    have hline : (emitOps record).flatMap OStream.Op.items = jsonlLine record := by
      simp [emitOps, OStream.Op.items, jsonlLine]
    rw [List.flatMap_cons, List.flatMap_append, ih, hline]
    rfl

theorem emitAll_append (stream : OStream UInt8) (records records' : List OutputRecord) :
    emitAll buf stream (records ++ records') = emitAll buf (emitAll buf stream records) records' :=
  List.foldl_append

variable {buf} {stream : OStream UInt8}

theorem emitAll_of_not_good (h : stream.good = false) (records : List OutputRecord) :
    emitAll buf stream records = stream := by
  rw [emitAll_eq_run, OStream.run_of_not_good h]

theorem buffered_emitAll {records : List OutputRecord} (hempty : stream.buffered = [])
    (h : (emitAll buf stream records).good = true) : (emitAll buf stream records).buffered = [] := by
  induction records using List.reverseRecOn with
  | nil => exact hempty
  | append_singleton records record =>
    rw [emitAll_append] at h ⊢
    exact OStream.buffered_of_flush h

variable (buf) in
/-- **What is written of the records**, to a stream with nothing in it: all of them while it is good, and the first part
of them whatever happens. -/
theorem emitAll_spec (records : List OutputRecord) :
    ((emitAll buf {} records).good = true → (emitAll buf {} records).written = jsonl records) ∧
      (emitAll buf {} records).written <+: jsonl records := by
  have hsent : (emitAll buf {} records).written <+: (emitAll buf {} records).sent := List.prefix_append _ _
  constructor
  · intro hgood
    have hbuffered : (emitAll buf {} records).buffered = [] := buffered_emitAll rfl hgood
    have hall : (emitAll buf {} records).sent = jsonl records := by
      rw [emitAll_eq_run] at hgood ⊢
      rw [OStream.sent_run_of_good hgood, items_emitOps]
      rfl
    rw [← hall, OStream.sent, hbuffered, List.append_nil]
  · have hprefix : (emitAll buf {} records).sent <+: jsonl records := by
      rw [emitAll_eq_run, ← items_emitOps]
      exact OStream.sent_run_prefix _
    exact hsent.trans hprefix

end JsonlOutputRecordSink

/-! ## Reading the lines -/

/-- **The records can be read back from any first part of the output**, where their times are formatted as they should
be: it is the lines of the first records and an unterminated rest, in one way only. -/
theorem jsonl_readBack (hescape : EscapeSpec) (hserialises : SerialisesDistinctly) {records : List OutputRecord}
    (hrecords : ∀ record ∈ records, record.FormattedTimes) {output : Bytes} (h : output <+: jsonl records) :
    ∃ whole rest part, records = whole ++ rest ∧ output = jsonl whole ++ part ∧ 10 ∉ part ∧
      ∀ records' part', (∀ record ∈ records', record.FormattedTimes) → output = jsonl records' ++ part' → 10 ∉ part' →
        records' = whole ∧ part' = part := by
  have hline : ∀ record : OutputRecord, (10 : UInt8) ∉ toJsonLine record := newline_notMem_toJsonLine hescape
  obtain ⟨whole, rest, part, rfl, rfl, hpart⟩ := Delimited.terminated_of_prefix hline h
  refine ⟨whole, rest, part, rfl, rfl, hpart, fun records' part' hrecords' hread hpart' => ?_⟩
  have hdistinct : ∀ record' ∈ records', ∀ record ∈ whole, toJsonLine record' = toJsonLine record → record' = record :=
    fun record' hmem' record hmem heq =>
      toJsonLine_inj hserialises (hrecords' record' hmem') (hrecords record (List.mem_append_left _ hmem)) heq
  exact Delimited.terminated_inj hline hdistinct hpart' hpart hread.symm

omit [Jsoncons] in
/-- A caption of the year 2000, and a diagnostic that is cut off after three bytes. -/
theorem jsonl_readBack_cut :
    letI := Jsoncons.documented
    let records : List OutputRecord :=
      [.caption ⟨some 946652400000, [65], [], none, none⟩, .diagnostic (.pcrDiscontinuity ⟨0x200, true⟩)]
    let output := (jsonl records).take ((jsonl (records.take 1)).length + 3)
    ∃ whole rest part, records = whole ++ rest ∧ output = jsonl whole ++ part ∧ 10 ∉ part ∧
      ∀ records' part', (∀ record ∈ records', record.FormattedTimes) → output = jsonl records' ++ part' → 10 ∉ part' →
        records' = whole ∧ part' = part := by
  let := Jsoncons.documented
  refine jsonl_readBack escapeSpec_documented serialisesDistinctly_documented ?_ (List.take_prefix _ _)
  intro record hrecord unixMs hunixMs
  simp only [List.mem_cons, List.not_mem_nil, or_false] at hrecord
  rcases hrecord with rfl | rfl
  · obtain rfl := List.mem_singleton.mp hunixMs
    exact ⟨by decide, by decide⟩
  · cases hunixMs

end AribcapDump
