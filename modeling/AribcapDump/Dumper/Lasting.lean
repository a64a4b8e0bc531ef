import AribcapDump.Caption.DecoderRuns
import AribcapDump.Dumper.ClockSource
import AribcapDump.Dumper.Service

/-!
# What tables say lasts

What a PAT, a PMT or an EIT said holds until another one ends it.  Broadcasts
repeat their tables, and while it holds a table that says the same again is not
noticed: no caption stream is begun anew, no time base is dropped, no record is
written twice.  And whatever came before a PAT and a PMT, what they said holds.

* `settled_step`, `settled_of_not_ends`: what is said holds, and holds on.
* `step_of_settled`: what holds is not noticed again.
* `repetition_unnoticed`: any number of tables that say what holds can be left out of a run, but a PAT with a
  reserved PMT PID.
* `routing_stabilises`: which PIDs are filtered, and what for, is what the last PAT and PMT said.
-/

namespace AribcapDump

/-! ## What is said and holds -/

namespace ServiceInput

/-- What is said once and holds from then on.  A listing on a reserved PID is not taken up: every PAT with it is
answered with a collision. -/
def Lasting : ServiceInput → Prop
  | .listed pmtPid => ∀ pid ∈ pmtPid, pid ∉ initialSectionPids
  | .announced _ _ => True
  | .eit _ => True
  | _ => False

/-- After the second nothing of the first needs to hold any more; `pmtPid` is the PMT PID that was listed when the first
was said. -/
def Ends (pmtPid : Option PID) : ServiceInput → ServiceInput → Prop
  | .listed none, .announced _ _ => True
  | .listed pmtPid, .listed pmtPid' => pmtPid' ≠ pmtPid
  | .announced _ _, .listed pmtPid' => pmtPid' = none ∨ pmtPid' ≠ pmtPid
  | .announced _ _, .announced _ _ => True
  | .eit _, .eit _ => True
  | _, _ => False

end ServiceInput

namespace Service

variable {δ : Type} {fresh : Profile → CaptionRecordEmitter δ} {s : Service δ} {told : ServiceInput} {pmtPid : Option PID}

/-- What was said holds. -/
def Settled (pmtPid : Option PID) (s : Service δ) : ServiceInput → Prop
  | .listed (some pid) => s.pmtPid = some pid
  | .listed none => s.pmtPid = none ∧ ∀ pid, s.emitter pid = none
  | .announced pcrPid profile =>
    s.pmtPid = pmtPid ∧ (pcrPid = PID_NULL ∨ s.clock.pcrPid = some pcrPid) ∧
      ∀ pid, (s.emitter pid).map CaptionRecordEmitter.profile = profile pid
  | .eit deserialized => s.eitEmitter.lastEmittedVersion = some deserialized.version
  | _ => False

theorem profile_follow (hfresh : ∀ profile, (fresh profile).profile = profile)
    (current : Option (CaptionRecordEmitter δ)) (profile : Profile) : (follow fresh current profile).profile = profile := by
  unfold follow
  split
  · split
    · next hsame => exact hsame
    · exact hfresh profile
  · exact hfresh profile

theorem pcrPid_setPcrPid (c : ProgramClock) (pid : PID) : pid = PID_NULL ∨ (c.setPcrPid pid).pcrPid = some pid := by
  unfold ProgramClock.setPcrPid
  split_ifs with hnull hsame
  · exact .inl hnull
  · exact .inr hsame
  · exact .inr rfl

variable [TSDuck] [CaptionDecoder δ]

/-- What is said holds. -/
theorem settled_step (hfresh : ∀ profile, (fresh profile).profile = profile) (hlasting : told.Lasting) (s : Service δ) :
    Settled s.pmtPid (s.step fresh told).1 told := by
  cases told with
  | listed pmtPid =>
    cases pmtPid with
    | none => exact ⟨rfl, fun _ => rfl⟩
    | some pid =>
      have hfree : pid ∉ initialSectionPids := hlasting pid rfl
      show (s.list (some pid)).1.pmtPid = some pid
      rw [list, if_neg hfree]
      split
      · next hcurrent => exact hcurrent
      · rfl
  | announced pcrPid profile =>
    refine ⟨rfl, pcrPid_setPcrPid s.clock pcrPid, fun pid => ?_⟩
    show ((profile pid).map _).map _ = _
    cases profile pid with
    | none => rfl
    | some profile => exact congrArg some (profile_follow hfresh _ profile)
  | eit deserialized =>
    show (s.eitEmitter.handleEit deserialized).1.lastEmittedVersion = _
    unfold EitRecordEmitter.handleEit
    split
    · next hsame => exact hsame
    · rfl
  | pcr packet => cases hlasting
  | tot tot => cases hlasting
  | pes packet => cases hlasting

omit [CaptionDecoder δ] in
theorem recordPcr_pcrPid (c : ProgramClock) (packet : PacketView) : (c.recordPcr packet).1.pcrPid = c.pcrPid := by
  cases hsample : sample? c.pcrPid packet with
  | none => rw [ProgramClock.recordPcr_of_none hsample]
  | some sample =>
    rw [ProgramClock.recordPcr_of_some hsample, ProgramClock.handleSuspectPcrDiscontinuity_eq]
    split_ifs <;> rfl

theorem handlePes_profile (s : Service δ) (packet : PESPacket) (pid : PID) :
    ((s.handlePes packet).1.emitter pid).map CaptionRecordEmitter.profile =
      (s.emitter pid).map CaptionRecordEmitter.profile := by
  unfold handlePes
  cases hemitter : s.emitter packet.sourcePID with
  | none => rfl
  | some emitter =>
    by_cases hpid : pid = packet.sourcePID
    · subst hpid
      simp only [if_true, hemitter, Option.map_some, CaptionRecordEmitter.handlePes_eq]
    · simp only [if_neg hpid]

/-- Only a PAT changes the PMT PID, and not one that lists it again. -/
theorem step_pmtPid {other : ServiceInput} (h : ∀ listed, other = .listed listed → listed = s.pmtPid) :
    (s.step fresh other).1.pmtPid = s.pmtPid := by
  cases other with
  | listed listed =>
    obtain rfl := h listed rfl
    show (s.list s.pmtPid).1.pmtPid = _
    unfold list
    split
    · next hnone => exact hnone.symm
    · next pid hpid => rw [if_pos hpid]; split <;> rfl
  | pes packet => exact handlePes_pmtPid s packet
  | pcr packet => rfl
  | tot tot => rfl
  | announced pcrPid profile => rfl
  | eit deserialized => rfl

/-- Only a PMT changes the PCR PID. -/
theorem step_pcrPid {other : ServiceInput} (h : ∀ pcrPid profile, other ≠ .announced pcrPid profile) :
    (s.step fresh other).1.clock.pcrPid = s.clock.pcrPid := by
  cases other with
  | listed listed => exact congrArg _ (list_clock s listed)
  | pes packet => exact congrArg _ (handlePes_clock s packet)
  | pcr packet => exact recordPcr_pcrPid s.clock packet
  | tot tot =>
    show (s.clock.updateReferencePointFromTot tot).pcrPid = _
    rw [ProgramClock.updateReferencePointFromTot_eq]
  | announced pcrPid profile => exact absurd rfl (h pcrPid profile)
  | eit deserialized => rfl

/-- Only a PAT or a PMT changes which streams are captions, and not a PAT that lists the PMT PID again. -/
theorem step_profile {other : ServiceInput} (hpmt : ∀ pcrPid profile, other ≠ .announced pcrPid profile)
    (hpat : ∀ listed, other = .listed listed → listed.isSome = true ∧ listed = s.pmtPid) (pid : PID) :
    ((s.step fresh other).1.emitter pid).map CaptionRecordEmitter.profile =
      (s.emitter pid).map CaptionRecordEmitter.profile := by
  cases other with
  | listed listed =>
    obtain ⟨hsome, rfl⟩ := hpat listed rfl
    show ((s.list s.pmtPid).1.emitter pid).map _ = _
    unfold list
    split
    · next hnone => rw [hnone] at hsome; cases hsome
    · next pmtPid hpid => rw [if_pos hpid]; split <;> rfl
  | pes packet => exact handlePes_profile s packet pid
  | pcr packet => rfl
  | tot tot => rfl
  | announced pcrPid profile => exact absurd rfl (hpmt pcrPid profile)
  | eit deserialized => rfl

/-- Only an EIT changes the version emitted last. -/
theorem step_eitEmitter {other : ServiceInput} (h : ∀ deserialized, other ≠ .eit deserialized) :
    (s.step fresh other).1.eitEmitter = s.eitEmitter := by
  cases other with
  | listed listed => exact list_eitEmitter s listed
  | pes packet => exact handlePes_eitEmitter s packet
  | pcr packet => rfl
  | tot tot => rfl
  | announced pcrPid profile => rfl
  | eit deserialized => exact absurd rfl (h deserialized)

/-- It holds on until it is ended. -/
theorem settled_of_not_ends {other : ServiceInput} (hother : ¬ told.Ends pmtPid other) (h : Settled pmtPid s told) :
    Settled pmtPid (s.step fresh other).1 told := by
  cases told with
  | listed listed =>
    have hpat : ∀ listed', other = .listed listed' → listed' = listed := by
      rintro listed' rfl
      by_contra hne
      cases listed <;> exact hother hne
    cases listed with
    | some pid =>
      have hpid : s.pmtPid = some pid := h
      exact (step_pmtPid fun listed' heq => (hpat listed' heq).trans hpid.symm).trans hpid
    | none =>
      obtain ⟨hpid, hemitter⟩ := h
      refine ⟨(step_pmtPid fun listed' heq => (hpat listed' heq).trans hpid.symm).trans hpid, fun pid => ?_⟩
      cases other with
      | listed listed' =>
        obtain rfl := hpat listed' rfl
        rfl
      | announced pcrPid profile => exact absurd trivial hother
      | pes packet =>
        show (s.handlePes packet).1.emitter pid = none
        rw [handlePes, hemitter]
        exact hemitter pid
      | pcr packet => exact hemitter pid
      | tot tot => exact hemitter pid
      | eit deserialized => exact hemitter pid
  | announced pcrPid profile =>
    obtain ⟨rfl, hclock, hprofile⟩ := h
    have hpmt : ∀ pcrPid' profile', other ≠ .announced pcrPid' profile' := by
      rintro pcrPid' profile' rfl
      exact hother trivial
    have hpat : ∀ listed, other = .listed listed → listed.isSome = true ∧ listed = s.pmtPid := by
      rintro listed rfl
      obtain ⟨hsome, hsame⟩ := not_or.mp hother
      exact ⟨Option.isSome_iff_ne_none.mpr hsome, not_not.mp hsame⟩
    refine ⟨step_pmtPid fun listed heq => (hpat listed heq).2, ?_, fun pid => ?_⟩
    · rw [step_pcrPid hpmt]
      exact hclock
    · rw [step_profile hpmt hpat]
      exact hprofile pid
  | eit deserialized =>
    have heit : ∀ deserialized', other ≠ .eit deserialized' := by
      rintro deserialized' rfl
      exact hother trivial
    exact (congrArg _ (step_eitEmitter heit)).trans h
  | pcr packet => cases h
  | tot tot => cases h
  | pes packet => cases h

/-- What holds is not noticed again. -/
theorem step_of_settled (hlasting : told.Lasting) (h : Settled pmtPid s told) : s.step fresh told = (s, []) := by
  cases told with
  | listed pmtPid' =>
    cases pmtPid' with
    | none =>
      obtain ⟨hpid, hemitter⟩ := h
      obtain ⟨pmtPid, clock, eitEmitter, emitter⟩ := s
      obtain rfl : pmtPid = none := hpid
      obtain rfl : emitter = fun _ => none := funext hemitter
      rfl
    | some pid =>
      have hfree : pid ∉ initialSectionPids := hlasting pid rfl
      show s.list (some pid) = _
      rw [list, if_neg hfree]
      exact if_pos h
  | announced pcrPid profile =>
    obtain ⟨-, hclock, hprofile⟩ := h
    have hsame : s.clock.setPcrPid pcrPid = s.clock := by
      unfold ProgramClock.setPcrPid
      split_ifs with hnull hcurrent
      · rfl
      · rfl
      · exact absurd (hclock.resolve_left hnull) hcurrent
    have hemitter : (fun pid => (profile pid).map (follow fresh (s.emitter pid))) = s.emitter := by
      funext pid
      rw [← hprofile pid]
      cases s.emitter pid with
      | none => rfl
      | some current => simp [follow]
    show (s.announce fresh pcrPid profile, []) = _
    rw [announce, hsame, hemitter]
  | eit deserialized =>
    show s.handleEit deserialized = _
    have hsame : s.eitEmitter.lastEmittedVersion = some deserialized.version := h
    rw [handleEit, EitRecordEmitter.handleEit, if_pos hsame]
    rfl
  | pcr packet => cases h
  | tot tot => cases h
  | pes packet => cases h

variable (s) in
/-- **What is said holds** as long as nothing ends it. -/
theorem settled_run (hfresh : ∀ profile, (fresh profile).profile = profile) (hlasting : told.Lasting)
    (earlier since : List ServiceInput)
    (hsince : ∀ other ∈ since, ¬ told.Ends (Machine.run (step fresh) s earlier).pmtPid other) :
    Settled (Machine.run (step fresh) s earlier).pmtPid (Machine.run (step fresh) s (earlier ++ told :: since)) told := by
  have hkeep : ∀ (s' : Service δ) (other : ServiceInput), ¬ told.Ends (Machine.run (step fresh) s earlier).pmtPid other →
      Settled (Machine.run (step fresh) s earlier).pmtPid s' told →
      Settled (Machine.run (step fresh) s earlier).pmtPid (s'.step fresh other).1 told :=
    fun _ _ hother h => settled_of_not_ends hother h
  rw [Machine.run_append, Machine.run_cons]
  exact Machine.run_invariant_of_forall (step fresh) hkeep (settled_step hfresh hlasting _) since hsince

variable (s) in
/-- What is said again while it holds changes nothing, however the run goes on. -/
theorem again_unnoticed (hfresh : ∀ profile, (fresh profile).profile = profile) (hlasting : told.Lasting)
    (earlier since after : List ServiceInput)
    (hsince : ∀ other ∈ since, ¬ told.Ends (Machine.run (step fresh) s earlier).pmtPid other) :
    Machine.run (step fresh) s (earlier ++ told :: since ++ told :: after) =
        Machine.run (step fresh) s (earlier ++ told :: since ++ after) ∧
      (Machine.answers (step fresh) s (earlier ++ told :: since ++ told :: after)).flatten =
        (Machine.answers (step fresh) s (earlier ++ told :: since ++ after)).flatten := by
  have hidle : (Machine.run (step fresh) s (earlier ++ told :: since)).step fresh told =
      (Machine.run (step fresh) s (earlier ++ told :: since), []) :=
    step_of_settled hlasting (settled_run s hfresh hlasting earlier since hsince)
  generalize earlier ++ told :: since = before at hidle ⊢
  constructor
  · rw [Machine.run_append, Machine.run_cons, hidle, Machine.run_append]
  · rw [Machine.answers_append, Machine.answers_cons, hidle, Machine.answers_append, List.flatten_append,
      List.flatten_cons, List.nil_append, List.flatten_append]

end Service

/-! ## Tables that come again -/

namespace CaptionDumper

section
variable {δ : Type} [TSDuck] [CaptionDecoder δ]

/-- The second run is the first with tables left out that said what held. -/
inductive Repeats (d : CaptionDumper δ) : List Input → List Input → Prop
  | same (inputs : List Input) : Repeats d inputs inputs
  | again (earlier since after : List Input) {others : List Input} (table repeated : BinaryTable) {told : ServiceInput}
      (htable : tableView d.targetSid table = some told) (hrepeated : tableView d.targetSid repeated = some told)
      (hlasting : told.Lasting)
      (hsince : ∀ input ∈ since, ∀ other ∈ view d.targetSid input,
        ¬ told.Ends (Machine.run step d earlier).currentPmtPid other)
      (hothers : Repeats d (earlier ++ .table table :: since ++ after) others) :
      Repeats d (earlier ++ .table table :: since ++ .table repeated :: after) others

/-- **Tables that come again are not noticed**: leave out of a run any number of PATs, PMTs and EITs that say what still
holds, and its records are the same and so is the state it ends in.  A PAT that lists a reserved PMT PID is not one of
them. -/
theorem repetition_unnoticed (targetSid : UInt16) (options : CaptionDumperOptions)
    (makeDecoderFactory : Profile → CaptionDecoderFactory δ) {inputs others : List Input}
    (h : Repeats (new targetSid options makeDecoderFactory) inputs others) :
    let d := new targetSid options makeDecoderFactory
    (Machine.run step d inputs).abs = (Machine.run step d others).abs ∧
      (Machine.answers step d inputs).flatten = (Machine.answers step d others).flatten := by
  intro d
  have hconfig : Config targetSid d.freshEmitter d := config_new targetSid options makeDecoderFactory
  induction h with
  | same inputs => exact ⟨rfl, rfl⟩
  | again earlier since after table repeated htable hrepeated hlasting hsince hothers ih =>
    have hpmtPid : (Machine.run step d earlier).currentPmtPid =
        (Machine.run (Service.step d.freshEmitter) d.abs (earlier.filterMap (view targetSid))).pmtPid := by
      rw [← abs_run hconfig]
      rfl
    have hview : view targetSid (.table table) = some _ := htable
    have hview' : view targetSid (.table repeated) = some _ := hrepeated
    have hfresh : ∀ profile, (d.freshEmitter profile).profile = profile := fun _ => rfl
    have hunnoticed := Service.again_unnoticed d.abs hfresh hlasting
      (earlier.filterMap (view targetSid)) (since.filterMap (view targetSid)) (after.filterMap (view targetSid)) (by
        intro other hother
        obtain ⟨input, hinput, hsome⟩ := List.mem_filterMap.mp hother
        rw [← hpmtPid]
        exact hsince input hinput other hsome)
    rw [← ih.1, ← ih.2, abs_run hconfig, abs_run hconfig, records_run hconfig, records_run hconfig]
    simpa only [List.filterMap_append, List.filterMap_cons, hview, hview'] using hunnoticed

end

/-- The PAT and the PMT of `anchoredAtEpoch`. -/
def listedAtEpoch : BinaryTable := .ofPat ⟨true, (∅ : Std.ExtTreeMap UInt16 PID).insert 1 0x1F0⟩

def announcedAtEpoch : BinaryTable := .ofPmt 0x1F0 ⟨true, 1, 0x100, oneCaptionStream⟩

theorem repeats_anchoredAtEpoch :
    @Repeats Unit TSDuck.documented (CaptionDecoder.always ⟨[65], [], 0⟩) dumperOfService1
      (anchoredAtEpoch ++ [.table listedAtEpoch, .table announcedAtEpoch, .pes captionAtOneSecond])
      (anchoredAtEpoch ++ [.pes captionAtOneSecond]) := by
  let := TSDuck.documented
  let := CaptionDecoder.always ⟨[65], [], 0⟩
  have hpat : tableView 1 listedAtEpoch = some (.listed (some 0x1F0)) := by
    have hlists : listedAtEpoch.pat.pmts[(1 : UInt16)]? = some 0x1F0 := by decide
    rw [← hlists]
    rfl
  obtain ⟨profile, hpmt⟩ : ∃ profile, tableView 1 announcedAtEpoch = some (.announced 0x100 profile) := ⟨_, rfl⟩
  have hlisted : (Machine.run step dumperOfService1 [.table listedAtEpoch]).currentPmtPid = some 0x1F0 := by decide
  have hpmtAgain : ∀ input ∈ anchoredAtEpoch.drop 2 ++ [.table listedAtEpoch], ∀ other ∈ view 1 input,
      ¬ ServiceInput.Ends (some 0x1F0) (.announced 0x100 profile) other := by
    intro input hinput
    simp only [anchoredAtEpoch, List.drop_succ_cons, List.drop_zero, List.cons_append, List.nil_append,
      List.mem_cons, List.not_mem_nil, or_false] at hinput
    rcases hinput with rfl | rfl | rfl
    · rintro other ⟨⟩
      exact id
    · rintro other ⟨⟩
      exact id
    · intro other hother
      rw [view, hpat] at hother
      cases hother
      exact not_or.mpr ⟨Option.some_ne_none _, not_not.mpr rfl⟩
  have hpatAgain : ∀ input ∈ anchoredAtEpoch.drop 1, ∀ other ∈ view 1 input,
      ¬ ServiceInput.Ends none (.listed (some 0x1F0)) other := by
    intro input hinput
    simp only [anchoredAtEpoch, List.drop_succ_cons, List.drop_zero, List.mem_cons, List.not_mem_nil, or_false] at hinput
    rcases hinput with rfl | rfl | rfl
    · rintro other ⟨⟩
      exact id
    · rintro other ⟨⟩
      exact id
    · rintro other ⟨⟩
      exact id
  have hfree : ServiceInput.Lasting (.listed (some 0x1F0)) := by
    rintro pid ⟨⟩
    decide
  refine Repeats.again (d := dumperOfService1) [.table listedAtEpoch] (anchoredAtEpoch.drop 2 ++ [.table listedAtEpoch])
    [.pes captionAtOneSecond] announcedAtEpoch announcedAtEpoch hpmt hpmt trivial (hlisted ▸ hpmtAgain) ?_
  exact .again [] (anchoredAtEpoch.drop 1) [.pes captionAtOneSecond] listedAtEpoch listedAtEpoch hpat hpat hfree hpatAgain
    (.same _)

/-- A PAT and a PMT come again before the caption. -/
theorem repetition_unnoticed_atOneSecond :
    letI := TSDuck.documented
    letI := CaptionDecoder.always ⟨[65], [], 0⟩
    let again : List Input := [.table listedAtEpoch, .table announcedAtEpoch, .pes captionAtOneSecond]
    (Machine.answers step dumperOfService1 (anchoredAtEpoch ++ [.pes captionAtOneSecond])).flatten =
        [.caption ⟨some 1000, [65], [], none, none⟩] ∧
      (Machine.answers step dumperOfService1 (anchoredAtEpoch ++ again)).flatten =
        (Machine.answers step dumperOfService1 (anchoredAtEpoch ++ [.pes captionAtOneSecond])).flatten := by
  let := TSDuck.documented
  let := CaptionDecoder.always ⟨[65], [], 0⟩
  exact ⟨by decide, (repetition_unnoticed 1 {} (fun _ _ _ => ()) repeats_anchoredAtEpoch).2⟩

/-! ## Whatever came before -/

section
variable {δ : Type} [TSDuck] [CaptionDecoder δ]

/-- **Whatever came before** a PAT that lists a PMT PID and a PMT after it: until the next PMT, or a PAT that lists
another one or no longer lists the service, these are the PIDs filtered and the streams decoded, each by its profile,
and this is the PCR PID. -/
theorem routing_stabilises (targetSid : UInt16) (options : CaptionDumperOptions)
    (makeDecoderFactory : Profile → CaptionDecoderFactory δ) (past between after : List Input) {pat pmt : BinaryTable}
    {pmtPid pcrPid : PID} {profile : PID → Option Profile}
    (hpat : tableView targetSid pat = some (.listed (some pmtPid))) (hfree : pmtPid ∉ initialSectionPids)
    (hpmt : tableView targetSid pmt = some (.announced pcrPid profile))
    (hpats : ∀ input ∈ between ++ after, ∀ listed, view targetSid input = some (.listed listed) → listed = some pmtPid)
    (hpmts : ∀ input ∈ after, ∀ pcrPid' profile', view targetSid input ≠ some (.announced pcrPid' profile')) :
    let d := Machine.run step (new targetSid options makeDecoderFactory)
      (past ++ .table pat :: between ++ .table pmt :: after)
    d.currentPmtPid = some pmtPid ∧ d.sectionDemux.pids = initialSectionPids ∪ {pmtPid} ∧
      (∀ pid, d.captionEmitters[pid]?.map CaptionRecordEmitter.profile = profile pid) ∧
      (∀ pid, pid ∈ d.pesDemux.pids ↔ (profile pid).isSome = true) ∧
      (pcrPid ≠ PID_NULL → d.programClock.pcrPid = some pcrPid) := by
  intro d
  have hconfig := config_new targetSid options makeDecoderFactory
  have hfresh : ∀ profile, ((new targetSid options makeDecoderFactory).freshEmitter profile).profile = profile :=
    fun _ => rfl
  -- the listing holds when the PMT comes
  have hlisted := Service.settled_run (new targetSid options makeDecoderFactory).abs hfresh
    (show ServiceInput.Lasting (.listed (some pmtPid)) by rintro pid ⟨⟩; exact hfree)
    (past.filterMap (view targetSid)) (between.filterMap (view targetSid)) (by
      intro other hother hends
      obtain ⟨input, hinput, hview⟩ := List.mem_filterMap.mp hother
      cases other with
      | listed listed => exact hends (hpats input (List.mem_append_left _ hinput) listed hview)
      | _ => exact hends)
  -- and both hold afterwards
  have hboth := Service.settled_run (new targetSid options makeDecoderFactory).abs hfresh
    (show ServiceInput.Lasting (.announced pcrPid profile) from trivial)
    (past.filterMap (view targetSid) ++ .listed (some pmtPid) :: between.filterMap (view targetSid))
    (after.filterMap (view targetSid)) (by
      intro other hother hends
      obtain ⟨input, hinput, hview⟩ := List.mem_filterMap.mp hother
      rw [hlisted] at hends
      cases other with
      | listed listed =>
        obtain rfl := hpats input (List.mem_append_right _ hinput) listed hview
        exact hends.elim (Option.some_ne_none _) (absurd rfl)
      | announced pcrPid' profile' => exact hpmts input hinput pcrPid' profile' hview
      | _ => exact hends)
  have hviewPat : view targetSid (.table pat) = some (.listed (some pmtPid)) := hpat
  have hviewPmt : view targetSid (.table pmt) = some (.announced pcrPid profile) := hpmt
  have hstate : d.abs = Machine.run (Service.step _) _ _ := abs_run hconfig _
  simp only [List.filterMap_append, List.filterMap_cons, hviewPat, hviewPmt] at hstate
  rw [← hstate, hlisted] at hboth
  obtain ⟨hpid, hclock, hprofile⟩ := hboth
  have hpid : d.currentPmtPid = some pmtPid := hpid
  have hlockstep : Lockstep d := lockstep_reachable targetSid options makeDecoderFactory _
  refine ⟨hpid, ?_, hprofile, fun pid => ?_, fun hnull => hclock.resolve_left hnull⟩
  · rw [hlockstep.sectionPids, hlockstep.reserved, hpid]
    rfl
  · rw [hlockstep.pes, Std.ExtTreeMap.mem_iff_isSome_getElem?, ← hprofile pid, Option.isSome_map]
    rfl

end

/-- The service moves to another PMT PID and another PCR PID. -/
theorem routing_stabilises_moved :
    letI := TSDuck.documented
    letI := CaptionDecoder.always ⟨[65], [], 0⟩
    let moved : BinaryTable := .ofPat ⟨true, (∅ : Std.ExtTreeMap UInt16 PID).insert 1 0x1F1⟩
    let d := Machine.run step dumperOfService1
      (anchoredAtEpoch ++ [.table moved, .table (.ofPmt 0x1F1 ⟨true, 1, 0x101, oneCaptionStream⟩), .pes captionAtOneSecond])
    d.currentPmtPid = some 0x1F1 ∧ d.sectionDemux.pids = initialSectionPids ∪ {0x1F1} ∧
      d.programClock.pcrPid = some 0x101 := by
  let := TSDuck.documented
  let := CaptionDecoder.always ⟨[65], [], 0⟩
  intro moved d
  have hmoved : tableView 1 moved = some (.listed (some 0x1F1)) := by
    have hlists : moved.pat.pmts[(1 : UInt16)]? = some 0x1F1 := by decide
    rw [← hlists]
    rfl
  obtain ⟨profile, hpmt⟩ : ∃ profile,
      tableView 1 (.ofPmt 0x1F1 ⟨true, 1, 0x101, oneCaptionStream⟩) = some (.announced 0x101 profile) := ⟨_, rfl⟩
  have hcaption : ∀ input ∈ [Input.pes captionAtOneSecond], view 1 input = some (.pes captionAtOneSecond) := by
    intro input hinput
    rw [List.mem_singleton.mp hinput]
    rfl
  obtain ⟨hpid, hfiltered, -, -, hclock⟩ := routing_stabilises 1 {} (fun _ _ _ => ()) anchoredAtEpoch []
    [.pes captionAtOneSecond] hmoved (by decide) hpmt
    (fun input hinput listed hlisted => by rw [hcaption input hinput] at hlisted; cases hlisted)
    (fun input hinput _ _ hannounced => by rw [hcaption input hinput] at hannounced; cases hannounced)
  exact ⟨hpid, hfiltered, hclock (by decide)⟩

end CaptionDumper

end AribcapDump
