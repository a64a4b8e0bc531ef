import AribcapDump.Dumper.Channels

/-!
# Captions without a clock

PCRs and TOTs stamp the captions and do nothing else to them: the captions of a
run are those of a service that has no clock, but for their times.

* `untimed_handlePes`: the captions of a packet.
* `captions_timeless`: those of a run.
-/

namespace AribcapDump

/-- The record without the time of a caption. -/
def OutputRecord.untimed : OutputRecord → OutputRecord
  | .caption record => .caption { record with timeMs := none }
  | record => record

/-- What is told of the captions, except of their times. -/
def ServiceInput.timeless : ServiceInput → Option ServiceInput
  | .listed pmtPid => some (.listed pmtPid)
  | .announced _ profile => some (.announced PID_NULL profile)
  | .pes packet => some (.pes packet)
  | _ => none

def ServiceInput.isPes : ServiceInput → Bool
  | .pes _ => true
  | _ => false

def CaptionDumper.Input.isPes : CaptionDumper.Input → Bool
  | .pes _ => true
  | _ => false

/-- What an input of the dumper tells of the captions, except of their times. -/
def timelessView (targetSid : UInt16) (input : CaptionDumper.Input) : Option ServiceInput :=
  (view targetSid input).bind ServiceInput.timeless

/-- The service without its clock and its EIT. -/
def Service.timeless {δ : Type} (s : Service δ) : Service δ := { pmtPid := s.pmtPid, emitter := s.emitter }

variable [TSDuck] {δ : Type} [CaptionDecoder δ]

/-! ## One packet -/

theorem captionTime_noClock (packet : PESPacket) : captionTime {} packet = none := by
  unfold captionTime
  cases parsePesPts packet <;> rfl

omit [TSDuck] in
theorem untimed_records (emitEmptyCaptions : Bool) (time : Option Int) (pid : PID) (result : DecodeResult) :
    (result.records emitEmptyCaptions time pid).map OutputRecord.untimed = result.records emitEmptyCaptions none pid := by
  cases result with
  | kError => rfl
  | kNoCaption => rfl
  | kGotCaption caption =>
    simp only [DecodeResult.records]
    split
    · rfl
    · rfl

namespace CaptionRecordEmitter

variable (e : CaptionRecordEmitter δ) (clock : ProgramClock) (packet : PESPacket)

/-- **The captions of a packet**, but for their times, are those there are without a clock. -/
theorem untimed_handlePes :
    (emitted (e.handlePes clock packet).2).map OutputRecord.untimed = emitted (e.handlePes {} packet).2 := by
  have hrecords : ∀ result, (e.pesRecords clock packet result).map OutputRecord.untimed = e.pesRecords {} packet result := by
    intro result
    rw [pesRecords, pesRecords, untimed_records, captionTime_noClock]
  rw [handlePes_eq, handlePes_eq]
  simp only [emitted_pesTrace, List.map_append, hrecords]
  cases e.secondAsked (firstStep e.first (delivery packet)).2 with
  | none => rfl
  | some second => simp only [Option.map_some, Option.elim_some, hrecords]

/-- The decoders do not see the clock. -/
theorem handlePes_noClock : (e.handlePes clock packet).1 = (e.handlePes {} packet).1 := by
  rw [handlePes_eq, handlePes_eq]

end CaptionRecordEmitter

/-! ## The service -/

namespace Service

variable (fresh : Profile → CaptionRecordEmitter δ)

theorem timeless_step (s : Service δ) (told : ServiceInput) :
    (s.step fresh told).1.timeless = told.timeless.elim s.timeless fun seen => (s.timeless.step fresh seen).1 := by
  cases told with
  | pcr packet => rfl
  | tot tot => rfl
  | eit deserialized => rfl
  | announced pcrPid profile => rfl
  | listed pmtPid =>
    cases pmtPid with
    | none => rfl
    | some pmtPid =>
      by_cases hreserved : pmtPid ∈ initialSectionPids
      · simp [timeless, ServiceInput.timeless, step, list, hreserved]
      · by_cases hcurrent : s.pmtPid = some pmtPid
        · simp [timeless, ServiceInput.timeless, step, list, hreserved, hcurrent]
        · cases hsome : s.pmtPid.isSome <;>
            simp [timeless, ServiceInput.timeless, step, list, hreserved, hcurrent, hsome]
  | pes packet =>
    simp only [ServiceInput.timeless, Option.elim_some, step, handlePes, timeless]
    cases s.emitter packet.sourcePID with
    | none => rfl
    | some emitter => simp only [emitter.handlePes_noClock s.clock packet]

theorem untimed_pes (s : Service δ) (packet : PESPacket) :
    (s.step fresh (.pes packet)).2.map OutputRecord.untimed = (s.timeless.step fresh (.pes packet)).2 := by
  simp only [step, handlePes, timeless]
  cases s.emitter packet.sourcePID with
  | none => rfl
  | some emitter => exact emitter.untimed_handlePes s.clock packet

end Service

/-! ## Runs of the dumper -/

namespace CaptionDumper

open Machine

/-- A step, with the times of captions left out. -/
def untimedStep (d : CaptionDumper δ) (input : Input) : CaptionDumper δ × List OutputRecord :=
  ((d.step input).1, (d.step input).2.map OutputRecord.untimed)

section
variable {targetSid : UInt16} {fresh : Profile → CaptionRecordEmitter δ} {d : CaptionDumper δ}

theorem timeless_untimedStep (h : Config targetSid fresh d) (input : Input) :
    (d.untimedStep input).1.abs.timeless =
      (timelessView targetSid input).elim d.abs.timeless fun seen => (d.abs.timeless.step fresh seen).1 := by
  rw [untimedStep, (follows_step h input).state, timelessView]
  cases view targetSid input with
  | none => rfl
  | some told => exact d.abs.timeless_step fresh told

/-- A PES packet is answered as by a service without a clock. -/
theorem untimedStep_of_isPes (h : Config targetSid fresh d) {input : Input} (hpes : input.isPes = true) :
    ∃ seen, timelessView targetSid input = some seen ∧ seen.isPes = true ∧
      (d.untimedStep input).2 = (d.abs.timeless.step fresh seen).2 := by
  cases input with
  | pes packet =>
    refine ⟨.pes packet, rfl, rfl, ?_⟩
    rw [untimedStep, (follows_step h (.pes packet)).records]
    exact d.abs.untimed_pes fresh packet
  | packet packet => cases hpes
  | table table => cases hpes

end

omit [TSDuck] in
theorem isPes_of_timelessView {targetSid : UInt16} {input : Input} {seen : ServiceInput}
    (hother : input.isPes = false) (hseen : timelessView targetSid input = some seen) : seen.isPes = false := by
  obtain ⟨told, hview, htold⟩ := Option.bind_eq_some_iff.mp hseen
  cases input with
  | pes packet => cases hother
  | packet packet =>
    rw [view] at hview
    split_ifs at hview
    cases hview
    cases htold
  | table table =>
    simp only [view, tableView] at hview
    split_ifs at hview <;> cases hview <;> cases htold <;> rfl

/-- **The clock costs no caption.**  What the PES packets of a run are answered with is, but for the times of captions,
what a service answers that has no clock.  So two runs that differ only in PCRs, TOTs, EITs and PCR PIDs give the same
captions, with other times, and the same decode errors. -/
theorem captions_timeless (targetSid : UInt16) (options : CaptionDumperOptions)
    (makeDecoderFactory : Profile → CaptionDecoderFactory δ) (inputs : List Input) :
    let d := new targetSid options makeDecoderFactory
    answersTo Input.isPes untimedStep d inputs =
      answersTo ServiceInput.isPes (Service.step d.freshEmitter) {} (inputs.filterMap (timelessView targetSid)) ∧
    ∀ others : List Input, inputs.filterMap (timelessView targetSid) = others.filterMap (timelessView targetSid) →
      answersTo Input.isPes untimedStep d inputs = answersTo Input.isPes untimedStep d others := by
  intro d
  have hconfig : Config targetSid d.freshEmitter d := config_new targetSid options makeDecoderFactory
  have hkeep : ∀ (d' : CaptionDumper δ) (input : Input), Config targetSid d.freshEmitter d' →
      Config targetSid d.freshEmitter (d'.untimedStep input).1 := fun _ input h => (follows_step h input).config
  have hnew : d.abs.timeless = {} := by
    rw [show d.abs = .initial options.eitOutput from abs_new targetSid options makeDecoderFactory]
    rfl
  refine ⟨?_, fun others hsame => ?_⟩
  · rw [← hnew]
    exact answersTo_part (fun d' => d'.abs.timeless) hkeep (fun _ input h => timeless_untimedStep h input)
      (fun _ _ h => untimedStep_of_isPes h) (fun _ _ => isPes_of_timelessView) hconfig inputs
  · exact answersTo_eq_of_sees (fun d' => d'.abs.timeless) hkeep (fun _ input h => timeless_untimedStep h input)
      (fun _ _ h => untimedStep_of_isPes h) (fun _ _ => isPes_of_timelessView) hconfig hsame

end CaptionDumper

end AribcapDump
