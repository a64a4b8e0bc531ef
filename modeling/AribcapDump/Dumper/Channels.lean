import AribcapDump.Caption.DecoderRuns
import AribcapDump.Dumper.Service
import AribcapDump.Lib.Channels

/-!
# Channels

The records of a service come in channels: PMT PID collisions, PCR
discontinuities, EIT records, and the records of each caption stream.  A channel
sees a part of what the service is told, and its records are those of a service
that is told nothing else.

* `part_step`: a part of the service steps on what its channel sees.
* `channels_independent`: the records of a channel depend on nothing else.
-/

namespace AribcapDump

inductive Channel
  /-- Collisions of the PMT PID. -/
  | pat
  /-- PCR discontinuities. -/
  | clock
  | eit
  | caption (pid : PID)
deriving DecidableEq

/-- The channel of the records that an input gives. -/
def ServiceInput.channel : ServiceInput → Channel
  | .pcr _ => .clock
  | .tot _ => .clock
  | .listed _ => .pat
  | .announced _ _ => .clock
  | .eit _ => .eit
  | .pes packet => .caption packet.sourcePID

namespace Channel

/-- What the channel sees of an input.  A caption stream shares the clock, the PATs and the PMTs with the others; of a
PMT it sees the PCR PID and its own profile. -/
def sees : Channel → ServiceInput → Option ServiceInput
  | .pat, .listed pmtPid => some (.listed pmtPid)
  | .pat, _ => none
  | .clock, .pcr packet => some (.pcr packet)
  | .clock, .tot tot => some (.tot tot)
  | .clock, .announced pcrPid _ => some (.announced pcrPid fun _ => none)
  | .clock, _ => none
  | .eit, .eit deserialized => some (.eit deserialized)
  | .eit, _ => none
  | .caption _, .pcr packet => some (.pcr packet)
  | .caption _, .tot tot => some (.tot tot)
  | .caption _, .listed pmtPid => some (.listed pmtPid)
  | .caption pid, .announced pcrPid profile => some (.announced pcrPid fun p => if p = pid then profile p else none)
  | .caption _, .eit _ => none
  | .caption pid, .pes packet => if packet.sourcePID = pid then some (.pes packet) else none

variable {δ : Type}

/-- The part of the service that gives the channel's records. -/
def part : Channel → Service δ → Service δ
  | .pat, s => { pmtPid := s.pmtPid }
  | .clock, s => { clock := s.clock }
  | .eit, s => { eitEmitter := s.eitEmitter }
  | .caption pid, s =>
    { pmtPid := s.pmtPid, clock := s.clock, emitter := fun p => if p = pid then s.emitter p else none }

/-- What a channel sees is of the channel if the input is. -/
theorem channel_sees {c : Channel} {input seen : ServiceInput} (h : c.sees input = some seen) :
    seen.channel = c ↔ input.channel = c := by
  have hsame : seen.channel = input.channel := by
    cases c with
    | pat => cases input <;> cases h; rfl
    | clock => cases input <;> cases h <;> rfl
    | eit => cases input <;> cases h; rfl
    | caption pid =>
      cases input with
      | pes packet =>
        obtain ⟨-, hsame⟩ := Option.ite_none_right_eq_some.mp h
        cases hsame
        rfl
      | _ => cases h <;> rfl
  rw [hsame]

section
variable [TSDuck] [CaptionDecoder δ] (fresh : Profile → CaptionRecordEmitter δ)

theorem part_caption_step (pid : PID) (s : Service δ) (input : ServiceInput) :
    (caption pid).part (s.step fresh input).1 =
      ((caption pid).sees input).elim ((caption pid).part s) fun seen =>
        (((caption pid).part s).step fresh seen).1 := by
  cases input with
  | pcr packet => rfl
  | tot tot => rfl
  | eit deserialized => rfl
  | listed pmtPid =>
    cases pmtPid with
    | none => simp [part, sees, Service.step, Service.list]
    | some pmtPid =>
      by_cases hreserved : pmtPid ∈ initialSectionPids
      · simp [part, sees, Service.step, Service.list, hreserved]
      · by_cases hcurrent : s.pmtPid = some pmtPid
        · simp [part, sees, Service.step, Service.list, hreserved, hcurrent]
        · cases hsome : s.pmtPid.isSome <;> simp [part, sees, Service.step, Service.list, hreserved, hcurrent, hsome]
  | announced pcrPid profile =>
    simp only [part, sees, Service.step, Service.announce, Option.elim_some, Service.mk.injEq, true_and]
    funext p
    by_cases hp : p = pid
    · simp only [hp, if_true]
    · simp only [hp, if_false, Option.map_none]
  | pes packet =>
    by_cases hpid : packet.sourcePID = pid
    · have hsees : (caption pid).sees (.pes packet) = some (.pes packet) := if_pos hpid
      have hemitter : ((caption pid).part s).emitter packet.sourcePID = s.emitter packet.sourcePID := if_pos hpid
      rw [hsees, Option.elim_some, Service.step, Service.step, Service.handlePes, Service.handlePes, hemitter]
      cases s.emitter packet.sourcePID with
      | none => rfl
      | some emitter =>
        simp only [part, Service.mk.injEq, true_and]
        funext p
        by_cases hp : p = packet.sourcePID
        · simp only [hp, hpid, if_true]
        · simp only [hp, if_false]
    · have hsees : (caption pid).sees (.pes packet) = none := if_neg hpid
      rw [hsees, Option.elim_none, Service.step, Service.handlePes]
      cases s.emitter packet.sourcePID with
      | none => rfl
      | some emitter =>
        simp only [part, Service.mk.injEq, true_and]
        funext p
        by_cases hp : p = pid
        · simp only [hp, Ne.symm hpid, if_false]
        · simp only [hp, if_false]

/-- **A part of the service steps on what its channel sees.** -/
theorem part_step (c : Channel) (s : Service δ) (input : ServiceInput) :
    c.part (s.step fresh input).1 = (c.sees input).elim (c.part s) fun seen => ((c.part s).step fresh seen).1 := by
  cases c with
  | caption pid => exact part_caption_step fresh pid s input
  | pat =>
    cases input with
    | listed pmtPid =>
      have hemitter : ({ pmtPid := s.pmtPid } : Service δ).list pmtPid =
          ({ pmtPid := (s.list pmtPid).1.pmtPid }, (s.list pmtPid).2) := by
        cases pmtPid with
        | none => rfl
        | some pmtPid =>
          by_cases hreserved : pmtPid ∈ initialSectionPids
          · simp [Service.list, hreserved]
          · by_cases hcurrent : s.pmtPid = some pmtPid <;> simp [Service.list, hreserved, hcurrent]
      rw [sees, Option.elim_some]
      exact (congrArg Prod.fst hemitter).symm
    | pes packet => simp [part, sees, Service.step]
    | _ => rfl
  | clock => cases input <;> simp [part, sees, Service.step, Service.recordPcr, Service.announce, Service.handleEit]
  | eit => cases input <;> simp [part, sees, Service.step, Service.recordPcr, Service.announce, Service.handleEit]

theorem answer_step {c : Channel} {input : ServiceInput} (h : input.channel = c) (s : Service δ) :
    ∃ seen, c.sees input = some seen ∧ seen.channel = c ∧
      (s.step fresh input).2 = ((c.part s).step fresh seen).2 := by
  subst h
  cases input with
  | pcr packet => exact ⟨.pcr packet, rfl, rfl, rfl⟩
  | tot tot => exact ⟨.tot tot, rfl, rfl, rfl⟩
  | announced pcrPid profile => exact ⟨.announced pcrPid fun _ => none, rfl, rfl, rfl⟩
  | eit deserialized => exact ⟨.eit deserialized, rfl, rfl, rfl⟩
  | listed pmtPid =>
    refine ⟨.listed pmtPid, rfl, rfl, ?_⟩
    rw [Service.step, Service.step, Service.list_records, Service.list_records]
  | pes packet =>
    refine ⟨.pes packet, if_pos rfl, rfl, ?_⟩
    have hemitter : ((caption packet.sourcePID).part s).emitter packet.sourcePID = s.emitter packet.sourcePID :=
      if_pos rfl
    simp only [ServiceInput.channel, Service.step, Service.handlePes, hemitter]
    cases s.emitter packet.sourcePID <;> rfl

end

end Channel

/-- The channel that a record names; a caption record names none. -/
def OutputRecord.channel : OutputRecord → Option Channel
  | .caption _ => none
  | .eit _ => some .eit
  | .diagnostic (.captionDecodeError error) => some (.caption error.pid)
  | .diagnostic (.pcrDiscontinuity _) => some .clock
  | .diagnostic (.reservedPmtPidCollision _) => some .pat

/-! ## Runs of the dumper -/

namespace CaptionDumper

open Machine

variable {δ : Type} {targetSid : UInt16} {fresh : Profile → CaptionRecordEmitter δ} {d : CaptionDumper δ}

/-- What an input of the dumper lets the channel see. -/
def heard (targetSid : UInt16) (c : Channel) (input : Input) : Option ServiceInput :=
  (view targetSid input).bind c.sees

def isOf (targetSid : UInt16) (c : Channel) (input : Input) : Bool :=
  (view targetSid input).any fun told => told.channel = c

variable [TSDuck] [CaptionDecoder δ]

theorem part_abs_step (h : Config targetSid fresh d) (c : Channel) (input : Input) :
    c.part (d.step input).1.abs =
      (heard targetSid c input).elim (c.part d.abs) fun seen => ((c.part d.abs).step fresh seen).1 := by
  rw [(follows_step h input).state, heard]
  cases view targetSid input with
  | none => rfl
  | some told => exact c.part_step fresh d.abs told

theorem answer_of_isOf (h : Config targetSid fresh d) {c : Channel} {input : Input}
    (hof : isOf targetSid c input = true) :
    ∃ seen, heard targetSid c input = some seen ∧ decide (seen.channel = c) = true ∧
      (d.step input).2 = ((c.part d.abs).step fresh seen).2 := by
  obtain ⟨told, hview, hchannel⟩ : ∃ told, view targetSid input = some told ∧ decide (told.channel = c) = true := by
    unfold isOf at hof
    cases hview : view targetSid input with
    | none => simp [hview] at hof
    | some told => exact ⟨told, rfl, by simpa [hview] using hof⟩
  obtain ⟨seen, hsees, hsame, hanswer⟩ := Channel.answer_step fresh (of_decide_eq_true hchannel) d.abs
  refine ⟨seen, ?_, decide_eq_true hsame, ?_⟩
  · rw [heard, hview, Option.bind_some, hsees]
  · rw [(follows_step h input).records, hview, Option.elim_some, hanswer]

omit [TSDuck] in
theorem not_isOf {c : Channel} {input : Input} {seen : ServiceInput} (hof : isOf targetSid c input = false)
    (hheard : heard targetSid c input = some seen) : decide (seen.channel = c) = false := by
  obtain ⟨told, hview, hsees⟩ := Option.bind_eq_some_iff.mp hheard
  rw [isOf, hview, Option.any_some, decide_eq_false_iff_not] at hof
  rwa [decide_eq_false_iff_not, Channel.channel_sees hsees]

/-- The records of a PES packet name its stream, or are captions. -/
theorem channel_of_mem_handlePes (e : CaptionRecordEmitter δ) {clock : ProgramClock} {packet : PESPacket}
    {record : OutputRecord} (hmem : record ∈ emitted (e.handlePes clock packet).2) :
    record.channel = some (.caption packet.sourcePID) ∨ record.channel = none := by
  rcases e.mem_handlePes_cases hmem with rfl | ⟨languageId, caption, -, rfl⟩
  · exact .inl rfl
  · exact .inr rfl

/-- The records of a step name the channel of what the input says, or are captions. -/
theorem channel_of_mem_step (s : Service δ) {told : ServiceInput} {record : OutputRecord}
    (hmem : record ∈ (s.step fresh told).2) :
    record.channel = some told.channel ∨ ∃ pid, told.channel = .caption pid ∧ record.channel = none := by
  cases told with
  | pcr packet =>
    obtain ⟨discontinuity, -, rfl⟩ := List.mem_map.mp hmem
    exact .inl rfl
  | tot tot => cases hmem
  | listed pmtPid =>
    rw [Service.step, Service.list_records] at hmem
    obtain ⟨pid, -, rfl⟩ := List.mem_map.mp hmem
    exact .inl rfl
  | announced pcrPid profile => cases hmem
  | eit deserialized =>
    obtain ⟨record, -, rfl⟩ := List.mem_map.mp hmem
    exact .inl rfl
  | pes packet =>
    rw [Service.step, Service.handlePes] at hmem
    split at hmem
    · cases hmem
    · next emitter _ =>
      rcases channel_of_mem_handlePes emitter hmem with hnames | hnone
      · exact .inl hnames
      · exact .inr ⟨packet.sourcePID, rfl, hnone⟩

/-- Whether a record names a channel tells what it answers, except for captions. -/
theorem names_iff_isOf (h : Config targetSid fresh d) {c : Channel} (hc : c ∈ [.pat, .clock, .eit]) {input : Input}
    {record : OutputRecord} (hmem : record ∈ (d.step input).2) :
    decide (record.channel = some c) = isOf targetSid c input := by
  have hcaption : ∀ pid, c ≠ .caption pid := by
    rintro pid rfl
    simp at hc
  rw [(follows_step h input).records] at hmem
  unfold isOf
  cases hview : view targetSid input with
  | none =>
    rw [hview] at hmem
    cases hmem
  | some told =>
    rw [hview, Option.elim_some] at hmem
    rcases channel_of_mem_step d.abs hmem with hnames | ⟨pid, hpid, hnone⟩
    · simp [hnames]
    · simp [hnone, hpid, Ne.symm (hcaption pid)]

variable (targetSid) (options : CaptionDumperOptions) (makeDecoderFactory : Profile → CaptionDecoderFactory δ)

/-- **Channels are independent**: the records that answer the inputs of a channel are those of a service that is told
only what the channel sees, so two runs that look the same to the channel have the same; and except for captions, which
do not name their stream, they are the records of the run that name the channel. -/
theorem channels_independent (c : Channel) (inputs : List Input) :
    let d := new targetSid options makeDecoderFactory
    answersTo (isOf targetSid c) step d inputs =
      answersTo (fun seen => seen.channel = c) (Service.step d.freshEmitter) (c.part (.initial options.eitOutput))
        (inputs.filterMap (heard targetSid c)) ∧
    (∀ others : List Input, inputs.filterMap (heard targetSid c) = others.filterMap (heard targetSid c) →
      answersTo (isOf targetSid c) step d inputs = answersTo (isOf targetSid c) step d others) ∧
    (c ∈ [.pat, .clock, .eit] →
      (answers step d inputs).flatten.filter (fun record => record.channel = some c) =
        (answersTo (isOf targetSid c) step d inputs).flatten) := by
  intro d
  have hconfig : Config targetSid d.freshEmitter d := config_new targetSid options makeDecoderFactory
  have hnew : d.abs = .initial options.eitOutput := abs_new targetSid options makeDecoderFactory
  have hkeep : ∀ (d' : CaptionDumper δ) (input : Input), Config targetSid d.freshEmitter d' →
      Config targetSid d.freshEmitter (d'.step input).1 := fun _ input h => (follows_step h input).config
  have hpart : ∀ d' input, Config targetSid d.freshEmitter d' → _ := fun d' input h => part_abs_step h c input
  refine ⟨?_, fun others hsame => ?_, fun hc => ?_⟩
  · rw [← hnew]
    exact answersTo_part (fun d' => c.part (abs d')) hkeep hpart (fun _ _ h => answer_of_isOf h)
      (fun _ _ => not_isOf) hconfig inputs
  · exact answersTo_eq_of_sees (fun d' => c.part (abs d')) hkeep hpart (fun _ _ h => answer_of_isOf h)
      (fun _ _ => not_isOf) hconfig hsame
  · exact flatten_filter_answers hkeep (fun _ _ h _ hmem => names_iff_isOf h hc hmem) hconfig inputs

end CaptionDumper

end AribcapDump
