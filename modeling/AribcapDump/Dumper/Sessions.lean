import AribcapDump.Dumper.Channels
import AribcapDump.Lib.Lifetime

/-!
# Sessions

The session of a caption stream begins with a PMT that announces it when it has
no emitter of the profile, and lasts while every PMT announces it with the
profile and no PAT takes the service away from its PMT PID.

* `emitter_run_eq_some_iff`: the emitters there are, and their state, are those of the sessions.
* `sessions`: the same of the dumper, with the records of a session and the payloads its decoders were given.
-/

namespace AribcapDump

namespace Service

open Machine

variable {δ : Type} (fresh : Profile → CaptionRecordEmitter δ) (pid : PID)

/-- What an input does to the emitter of `pid`. -/
def steer (s : Service δ) : ServiceInput → Change (CaptionRecordEmitter δ) (ProgramClock × PESPacket)
  | .announced _ profiles =>
    match profiles pid with
    | none => .stop
    | some profile =>
      if (s.emitter pid).any fun current => current.profile = profile then .keep none else .start (fresh profile)
  | .listed none => .stop
  | .listed (some pmtPid) =>
    if pmtPid ∈ initialSectionPids ∨ s.pmtPid = some pmtPid ∨ s.pmtPid = none then .keep none else .stop
  | .pes packet => .keep (if packet.sourcePID = pid then some (s.clock, packet) else none)
  | _ => .keep none

/-- The PES packets of `pid`. -/
def pesOf : ServiceInput → Option PESPacket
  | .pes packet => if packet.sourcePID = pid then some packet else none
  | _ => none

/-- A session is started by a PMT that announces the stream, where it has no emitter of the profile. -/
theorem steer_eq_start_iff {s : Service δ} {input : ServiceInput} {started : CaptionRecordEmitter δ} :
    s.steer fresh pid input = .start started ↔
      ∃ pcrPid profiles profile, input = .announced pcrPid profiles ∧ profiles pid = some profile ∧
        (∀ current, s.emitter pid = some current → current.profile ≠ profile) ∧ started = fresh profile := by
  cases input with
  | announced pcrPid profiles =>
    simp only [steer]
    cases hprofile : profiles pid with
    | none => simp [hprofile]
    | some profile =>
      cases hemitter : s.emitter pid with
      | none => simp [hprofile, eq_comm]
      | some current =>
        by_cases hsame : current.profile = profile
        · simp [hprofile, hsame]
        · simp [hprofile, hsame, eq_comm (a := started)]
  | listed pmtPid =>
    cases pmtPid with
    | none => simp [steer]
    | some pmtPid =>
      simp only [steer]
      split <;> simp
  | _ => simp [steer]

/-- What is heard is a PES packet of the stream, with the clock of that moment. -/
theorem hears_of_steer {s : Service δ} {input : ServiceInput} {hears : Option (ProgramClock × PESPacket)}
    (hkeep : s.steer fresh pid input = .keep hears) : hears = (pesOf pid input).map fun packet => (s.clock, packet) := by
  cases input with
  | announced pcrPid profiles =>
    simp only [steer] at hkeep
    split at hkeep
    · cases hkeep
    · split at hkeep <;> cases hkeep
      rfl
  | listed pmtPid =>
    cases pmtPid with
    | none => cases hkeep
    | some pmtPid =>
      simp only [steer] at hkeep
      split at hkeep <;> cases hkeep
      rfl
  | pes packet =>
    cases hkeep
    by_cases hpid : packet.sourcePID = pid <;> simp [pesOf, hpid]
  | _ =>
    cases hkeep
    rfl

theorem pesOf_eq_none_of_steer {s : Service δ} {input : ServiceInput}
    (hkeep : ∀ hears, s.steer fresh pid input ≠ .keep (some hears)) : pesOf pid input = none := by
  cases input with
  | pes packet =>
    by_cases hpid : packet.sourcePID = pid
    · exact absurd (by simp [steer, hpid]) (hkeep (s.clock, packet))
    · exact if_neg hpid
  | _ => rfl

theorem isCaption_eq_isSome {s : Service δ} {input : ServiceInput} {hears : Option (ProgramClock × PESPacket)}
    (hkeep : s.steer fresh pid input = .keep hears) : decide (input.channel = .caption pid) = hears.isSome := by
  rw [hears_of_steer fresh pid hkeep, Option.isSome_map]
  cases input with
  | pes packet => by_cases hpid : packet.sourcePID = pid <;> simp [pesOf, ServiceInput.channel, hpid]
  | _ => simp [pesOf, ServiceInput.channel]

variable [TSDuck] [CaptionDecoder δ]

/-- A session hears every PES packet of its stream, once and in order. -/
theorem map_snd_heard (s : Service δ) (told : List ServiceInput) :
    (heard (step fresh) (steer fresh pid) s told).map Prod.snd = told.filterMap (pesOf pid) := by
  induction told generalizing s with
  | nil => rfl
  | cons input told ih =>
    rw [heard, List.filterMap_cons, ← ih (s.step fresh input).1]
    split
    · next packet hkeep =>
      obtain ⟨packet, hpes, rfl⟩ := Option.map_eq_some_iff.mp (hears_of_steer fresh pid hkeep).symm
      rw [hpes, List.map_cons]
    · next hkeep => rw [pesOf_eq_none_of_steer fresh pid hkeep]

/-- **One input** changes the emitter as `steer` says. -/
theorem emitter_step (s : Service δ) (input : ServiceInput) :
    (s.step fresh input).1.emitter pid =
      (s.steer fresh pid input).apply CaptionRecordEmitter.step (s.emitter pid) := by
  cases input with
  | pcr packet => simp [step, steer, recordPcr, Change.apply]
  | tot tot => simp [step, steer, Change.apply]
  | eit deserialized => simp [step, steer, handleEit, Change.apply]
  | announced pcrPid profiles =>
    simp only [step, steer, announce]
    cases profiles pid with
    | none => rfl
    | some profile =>
      cases s.emitter pid with
      | none => rfl
      | some current => by_cases hsame : current.profile = profile <;> simp [follow, hsame, Change.apply]
  | listed pmtPid =>
    cases pmtPid with
    | none => rfl
    | some pmtPid =>
      by_cases hreserved : pmtPid ∈ initialSectionPids
      · simp [step, steer, list, Change.apply, hreserved]
      · cases hcurrent : s.pmtPid with
        | none => simp [step, steer, list, Change.apply, hreserved, hcurrent]
        | some current =>
          by_cases hsame : current = pmtPid <;> simp [step, steer, list, Change.apply, hreserved, hcurrent, hsame]
  | pes packet =>
    simp only [step, steer, handlePes]
    by_cases hpid : packet.sourcePID = pid
    · subst hpid
      cases hemitter : s.emitter packet.sourcePID <;> simp [Change.apply, CaptionRecordEmitter.step, hemitter]
    · cases s.emitter packet.sourcePID <;> simp [Change.apply, hpid, Ne.symm hpid]

/-- The packets of `pid` are answered by its emitter. -/
theorem answer_of_steer {s : Service δ} {input : ServiceInput} {packet : ProgramClock × PESPacket}
    {current : CaptionRecordEmitter δ} (hcurrent : s.emitter pid = some current)
    (hkeep : s.steer fresh pid input = .keep (some packet)) :
    (s.step fresh input).2 = emitted (current.step packet).2 := by
  obtain ⟨pes, hpes, rfl⟩ := Option.map_eq_some_iff.mp (hears_of_steer fresh pid hkeep).symm
  cases input with
  | pes packet =>
    obtain ⟨rfl, hsame⟩ := Option.ite_none_right_eq_some.mp hpes
    cases hsame
    simp only [step, handlePes, hcurrent]
    rfl
  | _ => cases hpes

/-- The state reached by a PMT. -/
def afterPmt (s : Service δ) (before : List ServiceInput) (pcrPid : PID) (profiles : PID → Option Profile) : Service δ :=
  run (step fresh) s (before ++ [.announced pcrPid profiles])

/-- A session begins with the PMT after `before`, which announces the stream with `profile`, and lasts through
`after`. -/
structure Session (s : Service δ) (before : List ServiceInput) (pcrPid : PID) (profiles : PID → Option Profile)
    (profile : Profile) (after : List ServiceInput) : Prop where
  announced : profiles pid = some profile
  isNew : ∀ current, (run (step fresh) s before).emitter pid = some current → current.profile ≠ profile
  kept : Kept (step fresh) (steer fresh pid) (s.afterPmt fresh before pcrPid profiles) after

/-- The PES packets of the stream since the PMT, each with the clock of that moment. -/
def sessionPes (s : Service δ) (before : List ServiceInput) (pcrPid : PID) (profiles : PID → Option Profile)
    (after : List ServiceInput) : List (ProgramClock × PESPacket) :=
  heard (step fresh) (steer fresh pid) (s.afterPmt fresh before pcrPid profiles) after

variable {s : Service δ} {before after : List ServiceInput} {pcrPid : PID} {profiles : PID → Option Profile}
  {profile : Profile}

/-- **The emitters there are** are those of the sessions. -/
theorem emitter_run_eq_some_iff (hnone : s.emitter pid = none) {told : List ServiceInput}
    {e : CaptionRecordEmitter δ} :
    (run (step fresh) s told).emitter pid = some e ↔
      ∃ before pcrPid profiles profile after, told = before ++ .announced pcrPid profiles :: after ∧
        Session fresh pid s before pcrPid profiles profile after ∧
        e = run CaptionRecordEmitter.step (fresh profile) (sessionPes fresh pid s before pcrPid profiles after) := by
  refine (part_run_eq_some_iff (fun s : Service δ => s.emitter pid) (emitter_step fresh pid) hnone).trans ?_
  constructor
  · rintro ⟨before, input, after, started, rfl, hstart, hkept, rfl⟩
    obtain ⟨pcrPid, profiles, profile, rfl, hprofile, hnew, rfl⟩ := (steer_eq_start_iff fresh pid).mp hstart
    exact ⟨before, pcrPid, profiles, profile, after, rfl, ⟨hprofile, hnew, hkept⟩, rfl⟩
  · rintro ⟨before, pcrPid, profiles, profile, after, rfl, hsession, rfl⟩
    exact ⟨before, .announced pcrPid profiles, after, fresh profile, rfl,
      (steer_eq_start_iff fresh pid).mpr ⟨pcrPid, profiles, profile, rfl, hsession.announced, hsession.isNew, rfl⟩,
      hsession.kept, rfl⟩

/-- The emitter of a session is fresh. -/
theorem Session.emitter_afterPmt (h : Session fresh pid s before pcrPid profiles profile after) :
    (s.afterPmt fresh before pcrPid profiles).emitter pid = some (fresh profile) := by
  have hstart := (steer_eq_start_iff fresh pid).mpr ⟨pcrPid, profiles, profile, rfl, h.announced, h.isNew, rfl⟩
  rw [afterPmt, run_concat, emitter_step, hstart]
  rfl

/-- The records of a session are those of its emitter. -/
theorem Session.answers_eq (h : Session fresh pid s before pcrPid profiles profile after) :
    answersTo (fun told => told.channel = .caption pid) (step fresh) (s.afterPmt fresh before pcrPid profiles) after =
      (answers CaptionRecordEmitter.step (fresh profile) (sessionPes fresh pid s before pcrPid profiles after)).map
        emitted :=
  answersTo_of_kept (fun s : Service δ => s.emitter pid) (emitter_step fresh pid)
    (fun _ _ _ _ hcurrent hkeep => answer_of_steer fresh pid hcurrent hkeep)
    (fun _ _ _ hkeep => isCaption_eq_isSome fresh pid hkeep) h.emitter_afterPmt h.kept

/-- The first decoder of a session is given every PES packet of the stream since the PMT. -/
theorem firstDeliveries_session (s : Service δ) (before : List ServiceInput) (pcrPid : PID)
    (profiles : PID → Option Profile) (after : List ServiceInput) (e : CaptionRecordEmitter δ) :
    (decodedBy .kFirst (answers CaptionRecordEmitter.step e
        (sessionPes fresh pid s before pcrPid profiles after)).flatten).map Prod.fst =
      (after.filterMap (pesOf pid)).map delivery := by
  rw [← map_snd_heard fresh pid (s.afterPmt fresh before pcrPid profiles), ← sessionPes,
    e.decodedBy_first_run, List.map_fst_zip]
  · rw [CaptionRecordEmitter.deliveries, List.map_map]
    rfl
  · simp [CaptionRecordEmitter.firstOutcomes]

end Service

namespace CaptionDumper

open Machine

variable {δ : Type} [TSDuck] [CaptionDecoder δ]

/-- **The caption emitters of a run are its open sessions.**  An emitter runs from new on the PES packets since the PMT
that began its session, and on no others; the records that answer them are its records, and its first decoder is
given the payload of each. -/
theorem sessions (targetSid : UInt16) (options : CaptionDumperOptions)
    (makeDecoderFactory : Profile → CaptionDecoderFactory δ) (inputs : List Input) (pid : PID) :
    let d := new targetSid options makeDecoderFactory
    let fresh := d.freshEmitter
    let s : Service δ := .initial options.eitOutput
    (∀ e, (run step d inputs).captionEmitters[pid]? = some e ↔
      ∃ before pcrPid profiles profile after,
        inputs.filterMap (view targetSid) = before ++ .announced pcrPid profiles :: after ∧
        s.Session fresh pid before pcrPid profiles profile after ∧
        e = run CaptionRecordEmitter.step (fresh profile) (s.sessionPes fresh pid before pcrPid profiles after)) ∧
    ∀ before pcrPid profiles profile after, s.Session fresh pid before pcrPid profiles profile after →
      let pes := s.sessionPes fresh pid before pcrPid profiles after
      let traces := answers CaptionRecordEmitter.step (fresh profile) pes
      pes.map Prod.snd = after.filterMap (Service.pesOf pid) ∧
      answersTo (fun told => told.channel = .caption pid) (Service.step fresh)
        (s.afterPmt fresh before pcrPid profiles) after = traces.map emitted ∧
      (decodedBy .kFirst traces.flatten).map Prod.fst = (after.filterMap (Service.pesOf pid)).map delivery := by
  intro d fresh s
  refine ⟨fun e => ?_, fun before pcrPid profiles profile after h => ⟨?_, ?_, ?_⟩⟩
  · have hconfig : Config targetSid fresh d := config_new targetSid options makeDecoderFactory
    have hnew : d.abs = s := abs_new targetSid options makeDecoderFactory
    have hemitter : (run step d inputs).captionEmitters[pid]? = (run step d inputs).abs.emitter pid := rfl
    rw [hemitter, abs_run hconfig, hnew]
    exact Service.emitter_run_eq_some_iff fresh pid rfl
  · exact Service.map_snd_heard fresh pid _ after
  · exact h.answers_eq
  · exact Service.firstDeliveries_session fresh pid s before pcrPid profiles after (fresh profile)

end CaptionDumper

end AribcapDump
