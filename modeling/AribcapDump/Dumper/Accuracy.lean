import AribcapDump.Clock.Broadcast
import AribcapDump.Dumper.Channels
import AribcapDump.Dumper.ClockSource

/-!
# The times of captions in a conforming broadcast

* `captionTimes_accurate`: how far they are off, and that no discontinuity is inferred.
* `captionTimes_recover`: how far they are off some time after an outage.
-/

namespace AribcapDump

open Broadcast

/-- An input, when it arrives, and how far the program clock is ahead of the time then. -/
structure TimedInput where
  input : CaptionDumper.Input
  time : Int
  base : Int

/-- The call an input makes on the clock. -/
def TimedInput.call? (targetSid : UInt16) (i : TimedInput) : Option TimedCall :=
  (clockCall? targetSid i.input).map fun call => ⟨call, i.time, i.base⟩

/-- The calls the inputs make, latest first. -/
def broadcast (targetSid : UInt16) (past : List TimedInput) : Broadcast :=
  (past.filterMap (TimedInput.call? targetSid)).reverse

theorem history_broadcast (targetSid : UInt16) (outage : List CaptionDumper.Input) (past : List TimedInput) :
    history (clockHistory targetSid outage) (broadcast targetSid past) =
      clockHistory targetSid (outage ++ past.map TimedInput.input) := by
  have hcalls : (past.filterMap (TimedInput.call? targetSid)).map TimedCall.call =
      (past.map TimedInput.input).filterMap (clockCall? targetSid) := by
    rw [List.map_filterMap, List.filterMap_map]
    congr 1
    funext i
    rw [TimedInput.call?, Option.map_map]
    exact Option.map_id'
  rw [history, broadcast, List.map_reverse, hcalls, clockHistory, clockHistory, List.filterMap_append,
    List.reverse_append]

theorem broadcast_append (targetSid : UInt16) (past later : List TimedInput) :
    broadcast targetSid (past ++ later) = broadcast targetSid later ++ broadcast targetSid past := by
  unfold broadcast
  rw [List.filterMap_append, List.reverse_append]

theorem Broadcast.Conforming.of_append [TSDuck] {limits : Limits} {before : History} {later earlier : Broadcast}
    (h : Conforming limits before (later ++ earlier)) : Conforming limits before earlier := by
  induction later with
  | nil => exact h
  | cons e later ih => exact ih h.2

namespace CaptionDumper

section
variable {δ : Type} [TSDuck] [CaptionDecoder δ]

/-- A discontinuity is what the clock answers to a packet. -/
theorem discontinuity_of_mem_step {targetSid : UInt16} {fresh : Profile → CaptionRecordEmitter δ} {d : CaptionDumper δ}
    (h : Config targetSid fresh d) {input : Input} {kind : PcrDiscontinuity}
    (hmem : .diagnostic (.pcrDiscontinuity kind) ∈ (d.step input).2) :
    ∃ packet, clockCall? targetSid input = some (.recordPcr packet) ∧
      (d.programClock.recordPcr packet).2 = some kind := by
  rw [(follows_step h input).records] at hmem
  cases hview : view targetSid input with
  | none =>
    rw [hview] at hmem
    cases hmem
  | some told =>
    rw [hview, Option.elim_some] at hmem
    have hchannel : told.channel = .clock := by
      rcases channel_of_mem_step d.abs hmem with hnames | ⟨pid, -, hnone⟩
      · exact (Option.some.inj hnames).symm
      · cases hnone
    cases told with
    | pcr packet =>
      refine ⟨packet, ?_, ?_⟩
      · cases input with
        | packet packet' =>
          rw [view] at hview
          split at hview
          · next hsync =>
            cases hview
            rw [clockCall?, hsync]
            rfl
          · cases hview
        | table table =>
          simp only [view, tableView] at hview
          split_ifs at hview <;> cases hview
        | pes packet' => cases hview
      · have hclock : d.abs.clock = d.programClock := rfl
        simpa [Service.step, Service.recordPcr, hclock] using hmem
    | tot tot => cases hmem
    | listed pmtPid => cases hchannel
    | announced pcrPid profile => cases hmem
    | eit deserialized => cases hchannel
    | pes packet => cases hchannel

/-- No discontinuity is inferred in a conforming broadcast. -/
theorem flagged_of_conforming (hdiff : DiffPTSSpec) {limits : Limits} (hinterval : limits.pcrInterval ≤ 27000000)
    {targetSid : UInt16} {fresh : Profile → CaptionRecordEmitter δ} {d : CaptionDumper δ}
    (hconfig : Config targetSid fresh d) {past : List TimedInput}
    (hclock : d.programClock = clock (clockHistory targetSid (past.map TimedInput.input))) {i : TimedInput}
    (h : Conforming limits [] (broadcast targetSid (past ++ [i]))) {kind : PcrDiscontinuity}
    (hmem : .diagnostic (.pcrDiscontinuity kind) ∈ (d.step i.input).2) : kind.flagged = true := by
  obtain ⟨packet, hcall, hkind⟩ := discontinuity_of_mem_step hconfig hmem
  have hcalls : broadcast targetSid [i] = [⟨.recordPcr packet, i.time, i.base⟩] := by
    simp [broadcast, TimedInput.call?, hcall]
  have hhistory : history [] (broadcast targetSid past) = clockHistory targetSid (past.map TimedInput.input) :=
    history_broadcast targetSid [] past
  rw [broadcast_append, hcalls, List.singleton_append] at h
  have hstep : InStep [] (broadcast targetSid past) := (onTime_of_conforming hdiff hinterval h.2).inStep
  rw [hclock, ← hhistory, hstep.recordPcr_eq hdiff hinterval h.1 rfl] at hkind
  split at hkind
  · cases hkind
    rfl
  · cases hkind

/-- A caption after a run bears the time the clock gives its PTS. -/
theorem timeMs_of_mem_run (targetSid : UInt16) (options : CaptionDumperOptions)
    (makeDecoderFactory : Profile → CaptionDecoderFactory δ) {past : List Input} {packet : PESPacket} {pts90k : ℕ}
    (hpts : parsePesPts packet = some pts90k) {record : CaptionRecord}
    (hmem : .caption record ∈ ((Machine.run step (new targetSid options makeDecoderFactory) past).step (.pes packet)).2) :
    record.timeMs = (clock (clockHistory targetSid past)).ptsToUnixMs pts90k := by
  obtain ⟨packet', heq, -, htime⟩ := caption_of_mem_step hmem
  obtain rfl : packet = packet' := Input.pes.inj heq
  rw [htime, programClock_run, captionTime, hpts]

/-- **The times of captions in a broadcast that conforms from the start.**  No discontinuity is inferred.  A caption whose
PES packet has a PTS, that of the time `time`, bears a time exactly if there is a TOT to go by; then, within thirteen
hours of that TOT, it is early by no more than the error of the TOT, late by no more than that and a PCR interval, but
for a millisecond. -/
theorem captionTimes_accurate (hdiff : DiffPTSSpec) {limits : Limits} (hinterval : limits.pcrInterval ≤ 27000000)
    (targetSid : UInt16) (options : CaptionDumperOptions) (makeDecoderFactory : Profile → CaptionDecoderFactory δ)
    {past : List TimedInput} (h : Conforming limits [] (broadcast targetSid past)) :
    let d := new targetSid options makeDecoderFactory
    let b := broadcast targetSid past
    (∀ before i after kind, past = before ++ i :: after →
      .diagnostic (.pcrDiscontinuity kind) ∈ ((Machine.run step d (before.map TimedInput.input)).step i.input).2 →
      kind.flagged = true) ∧
    ∀ packet time record, parsePesPts packet = some (ptsAt b.base time) →
      .caption record ∈ ((Machine.run step d (past.map TimedInput.input)).step (.pes packet)).2 →
      record.timeMs.isSome = (anchoredAt [] 1 b).isSome ∧
      ∀ anchor ∈ anchoredAt [] 1 b, ∀ unixMs ∈ record.timeMs,
        time - anchor + limits.pcrInterval ≤ 300 * 0xFFFFFFFF → anchor - time ≤ 300 * 0xFFFFFFFF →
        time - limits.totError - 27000 < 27000 * unixMs ∧
          27000 * unixMs < time + limits.totError + limits.pcrInterval + 27000 := by
  intro d b
  refine ⟨?_, ?_⟩
  · rintro before i after kind rfl hmem
    have hkeep : ∀ (d' : CaptionDumper δ) (input : Input), Config targetSid d.freshEmitter d' →
        Config targetSid d.freshEmitter (d'.step input).1 := fun _ input hconfig => (follows_step hconfig input).config
    have hconfig : Config targetSid d.freshEmitter (Machine.run step d (before.map TimedInput.input)) :=
      Machine.run_invariant step hkeep (config_new targetSid options makeDecoderFactory) _
    rw [List.append_cons, broadcast_append] at h
    exact flagged_of_conforming hdiff hinterval hconfig (programClock_run ..) h.of_append hmem
  · intro packet time record hpts hmem
    have hontime : OnTime limits b := onTime_of_conforming hdiff hinterval h
    have hhistory : history [] b = clockHistory targetSid (past.map TimedInput.input) :=
      history_broadcast targetSid [] past
    have hconverted := hontime.ptsToUnixMs_eq time
    rw [hhistory, ← timeMs_of_mem_run targetSid options makeDecoderFactory hpts hmem] at hconverted
    generalize anchoredAt [] 1 b = anchor at hconverted ⊢
    generalize record.timeMs = unixMs at hconverted ⊢
    cases hconverted with
    | none => exact ⟨rfl, fun _ hnone => (by cases hnone)⟩
    | some hnear =>
      obtain ⟨r, hpairs, rfl⟩ := hnear
      refine ⟨rfl, ?_⟩
      rintro _ ⟨⟩ _ ⟨⟩ hahead hbehind
      exact hpairs.convert_near hdiff hahead hbehind

/-- **The times of captions recover.**  Whatever the inputs were before, once the broadcast conforms again and a TOT has
come after two samples of the time base in use, every caption with a PTS bears a time that is as accurate as in a
broadcast that conforms from the start. -/
theorem captionTimes_recover (hdiff : DiffPTSSpec) {limits : Limits} (hinterval : limits.pcrInterval ≤ 27000000)
    (targetSid : UInt16) (options : CaptionDumperOptions) (makeDecoderFactory : Profile → CaptionDecoderFactory δ)
    (outage : List Input) {past : List TimedInput}
    (h : Conforming limits (clockHistory targetSid outage) (broadcast targetSid past)) :
    let d := new targetSid options makeDecoderFactory
    let b := broadcast targetSid past
    ∀ anchor ∈ anchoredAt (clockHistory targetSid outage) 2 b, ∀ packet time record,
      parsePesPts packet = some (ptsAt b.base time) →
      .caption record ∈ ((Machine.run step d (outage ++ past.map TimedInput.input)).step (.pes packet)).2 →
      time - anchor + limits.pcrInterval ≤ 300 * 0xFFFFFFFF → anchor - time ≤ 300 * 0xFFFFFFFF →
      ∃ unixMs, record.timeMs = some unixMs ∧ time - limits.totError - 27000 < 27000 * unixMs ∧
        27000 * unixMs < time + limits.totError + limits.pcrInterval + 27000 := by
  intro d b anchor hanchor packet time record hpts hmem hahead hbehind
  have hrec : Recovering limits (clockHistory targetSid outage) b := recovering_of_conforming hdiff hinterval h
  obtain ⟨r, hpairs, hconverted⟩ := hrec.ptsToUnixMs_eq hanchor time
  rw [history_broadcast, ← timeMs_of_mem_run targetSid options makeDecoderFactory hpts hmem] at hconverted
  exact ⟨_, hconverted, hpairs.convert_near hdiff hahead hbehind⟩

end

/-- Service 1, with a program clock that starts one second after the epoch and a TOT a tenth of a second later that tells
this time. -/
def onAir : List TimedInput :=
  [⟨.table (.ofPat ⟨true, (∅ : Std.ExtTreeMap UInt16 PID).insert 1 0x1F0⟩), 0, 0⟩,
    ⟨.table (.ofPmt 0x1F0 ⟨true, 1, 0x100, oneCaptionStream⟩), 0, -27000000⟩,
    ⟨.packet ⟨true, 0x100, true, 0, false⟩, 27000000, -27000000⟩,
    ⟨.table (.ofTot ⟨true, 40587 * 86400000 + 32400000 + 1000⟩), 29700000, -27000000⟩]

theorem conforming_onAir : @Conforming TSDuck.documented ⟨2700000, 2700000⟩ [] (broadcast 1 onAir) := by
  let := TSDuck.documented
  have hcalls : broadcast 1 onAir =
      [⟨.updateReferencePointFromTot ⟨true, 40587 * 86400000 + 32400000 + 1000⟩, 29700000, -27000000⟩,
        ⟨.recordPcr ⟨true, 0x100, true, 0, false⟩, 27000000, -27000000⟩, ⟨.setPcrPid 0x100, 0, -27000000⟩] := rfl
  rw [hcalls]
  refine ⟨?tot, ?pcr, ?pmt, trivial⟩
  case tot =>
    refine ⟨fun _ earlier hearlier => (by cases hearlier; rfl), fun _ hcall => (by cases hcall),
      fun _ _ since hsince => ?_, fun unixMs htot => ?_⟩
    · obtain rfl : since = 27000000 := Option.some.inj (hsince.symm.trans (by decide))
      decide
    · obtain rfl : unixMs = 1000 := Option.some.inj (htot.symm.trans (by decide))
      decide
  case pcr =>
    refine ⟨fun _ earlier hearlier => (by cases hearlier; rfl), fun packet hcall _ => ?_,
      fun _ _ since hsince => (by cases hsince), fun unixMs htot => (by cases htot)⟩
    cases hcall
    decide
  case pmt =>
    exact ⟨fun _ earlier hearlier => (by cases hearlier), fun _ hcall => (by cases hcall),
      fun _ _ since hsince => (by cases hsince), fun unixMs htot => (by cases htot)⟩

/-- A caption with a PTS of one second bears two seconds after the epoch, less than a fifth of a second off. -/
theorem captionTimes_accurate_onAir :
    letI := TSDuck.documented
    letI := CaptionDecoder.always ⟨[65], [], 0⟩
    let step' := (Machine.run step dumperOfService1 (onAir.map TimedInput.input)).step (.pes captionAtOneSecond)
    step'.2 = [.caption ⟨some 2000, [65], [], none, none⟩] ∧
    ∀ record, .caption record ∈ step'.2 → ∀ unixMs ∈ record.timeMs,
      54000000 - 2700000 - 27000 < 27000 * unixMs ∧ 27000 * unixMs < 54000000 + 2700000 + 2700000 + 27000 := by
  let := TSDuck.documented
  let := CaptionDecoder.always ⟨[65], [], 0⟩
  refine ⟨by decide, ?_⟩
  intro record hmem unixMs htime
  have hanchor : anchoredAt [] 1 (broadcast 1 onAir) = some 29700000 := by decide
  exact ((captionTimes_accurate diffPTSSpec_documented (by decide) 1 {} (fun _ _ _ => ()) conforming_onAir).2
    captionAtOneSecond 54000000 record (by decide) hmem).2 29700000 hanchor unixMs htime (by decide) (by decide)

/-- After `anchoredAtEpoch` the program clock is put back by a second, unflagged; then two PCRs and a TOT. -/
def backOnAir : List TimedInput :=
  [⟨.packet ⟨true, 0x100, true, 2576953377600, false⟩, 2916000000, -2943000000⟩,
    ⟨.packet ⟨true, 0x100, true, 2576954727600, false⟩, 2917350000, -2943000000⟩,
    ⟨.table (.ofTot ⟨true, 40587 * 86400000 + 32400000 + 108050⟩), 2917350000, -2943000000⟩]

theorem conforming_backOnAir :
    @Conforming TSDuck.documented ⟨1350000, 0⟩ (clockHistory 1 anchoredAtEpoch) (broadcast 1 backOnAir) := by
  let := TSDuck.documented
  have hcalls : broadcast 1 backOnAir =
      [⟨.updateReferencePointFromTot ⟨true, 40587 * 86400000 + 32400000 + 108050⟩, 2917350000, -2943000000⟩,
        ⟨.recordPcr ⟨true, 0x100, true, 2576954727600, false⟩, 2917350000, -2943000000⟩,
        ⟨.recordPcr ⟨true, 0x100, true, 2576953377600, false⟩, 2916000000, -2943000000⟩] := rfl
  rw [hcalls]
  refine ⟨?tot, ?second, ?first, trivial⟩
  case tot =>
    refine ⟨fun _ earlier hearlier => (by cases hearlier; rfl), fun _ hcall => (by cases hcall),
      fun _ _ since hsince => ?_, fun unixMs htot => ?_⟩
    · obtain rfl : since = 2917350000 := Option.some.inj (hsince.symm.trans (by decide))
      decide
    · obtain rfl : unixMs = 108050 := Option.some.inj (htot.symm.trans (by decide))
      decide
  case second =>
    refine ⟨fun _ earlier hearlier => (by cases hearlier; rfl), fun packet hcall _ => ?_, fun _ _ since hsince => ?_,
      fun unixMs htot => (by cases htot)⟩
    · cases hcall
      decide
    · obtain rfl : since = 2916000000 := Option.some.inj (hsince.symm.trans (by decide))
      decide
  case first =>
    refine ⟨fun _ earlier hearlier => (by cases hearlier), fun packet hcall _ => ?_,
      fun _ _ since hsince => (by cases hsince), fun unixMs htot => (by cases htot)⟩
    cases hcall
    decide

/-- A caption with a PTS of one second then bears 110 seconds after the epoch. -/
theorem captionTimes_recover_backOnAir :
    letI := TSDuck.documented
    letI := CaptionDecoder.always ⟨[65], [], 0⟩
    let d := Machine.run step dumperOfService1 (anchoredAtEpoch ++ backOnAir.map TimedInput.input)
    (d.step (.pes captionAtOneSecond)).2 = [.caption ⟨some 110000, [65], [], none, none⟩] ∧
    ∃ unixMs : Int, some 110000 = some unixMs ∧ 2970000000 - 0 - 27000 < 27000 * unixMs ∧
      27000 * unixMs < 2970000000 + 0 + 1350000 + 27000 := by
  let := TSDuck.documented
  let := CaptionDecoder.always ⟨[65], [], 0⟩
  refine ⟨by decide, ?_⟩
  have hanchor : anchoredAt (clockHistory 1 anchoredAtEpoch) 2 (broadcast 1 backOnAir) = some 2917350000 := by decide
  exact captionTimes_recover diffPTSSpec_documented (by decide) 1 {} (fun _ _ _ => ()) anchoredAtEpoch
    conforming_backOnAir 2917350000 hanchor captionAtOneSecond 2970000000 ⟨some 110000, [65], [], none, none⟩ (by decide)
    (by decide) (by decide) (by decide)

end CaptionDumper

end AribcapDump
