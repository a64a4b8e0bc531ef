import AribcapDump.Dumper.Lockstep

/-!
# On whose authority captions are tracked

The tests and comments have caption streams tracked on the PAT's authority: an
emitter comes from a PMT of the service received on the PMT PID that the PAT
gives.  `HandlePmt` does not look at the PID a PMT was received on, and four
other PIDs are always demuxed, so this holds exactly where every PMT that
registers a stream was received on that PID.

* `authorised_iff`: the property at every state of a run is that condition.
* `pmtOnEitPid_tracked`: a PMT received on the EIT PID, with no PAT at all.
-/

namespace AribcapDump.CaptionDumper

variable {δ : Type}

/-! ## Registering a stream -/

/-- `HandlePmt` would construct an emitter for `pid`: the PMT lists it as a caption stream, and it has no emitter
yet or one of another profile. -/
def Registers (d : CaptionDumper δ) (table : BinaryTable) (pid : PID) : Prop :=
  table.tableId = TID_PMT ∧ d.Accepted table ∧
    ∃ stream profile, table.pmt.streams[pid]? = some stream ∧
      classifyCaptionStream table.sourcePID stream = some profile ∧
      ∀ emitter, d.captionEmitters[pid]? = some emitter → emitter.profile ≠ profile

/-- The emitters after a PMT that is acted on are those of its caption streams. -/
theorem mem_handlePmt {d : CaptionDumper δ} {table : BinaryTable} (h : d.Accepted table) (pid : PID) :
    pid ∈ (d.handlePmt table).captionEmitters ↔
      ∃ stream profile, table.pmt.streams[pid]? = some stream ∧
        classifyCaptionStream table.sourcePID stream = some profile := by
  rcases handlePmt_cases d table with ⟨hnot, -⟩ | ⟨-, hsynced⟩
  · exact absurd h hnot
  · rw [hsynced, Std.ExtTreeMap.mem_iff_isSome_getElem?, captionEmitters_syncCaptionStreams,
      Option.isSome_map, Option.isSome_iff_exists]
    simp only [Option.bind_eq_some_iff]
    constructor
    · rintro ⟨profile, stream, hstream, hprofile⟩
      exact ⟨stream, profile, hstream, hprofile⟩
    · rintro ⟨stream, profile, hstream, hprofile⟩
      exact ⟨profile, stream, hstream, hprofile⟩

/-- What a PMT does not register was there before. -/
theorem mem_of_not_registers {d : CaptionDumper δ} {table : BinaryTable} {pid : PID}
    (hid : table.tableId = TID_PMT)
    (hnot : ¬ d.Registers table pid) (hmem : pid ∈ (d.handlePmt table).captionEmitters) :
    pid ∈ d.captionEmitters := by
  by_cases haccepted : d.Accepted table
  · obtain ⟨stream, profile, hstream, hprofile⟩ := (mem_handlePmt haccepted pid).mp hmem
    by_contra habsent
    refine hnot ⟨hid, haccepted, stream, profile, hstream, hprofile, fun emitter hemitter => ?_⟩
    exact absurd (mem_captionEmitters.mpr ⟨emitter, hemitter⟩) habsent
  · rcases handlePmt_cases d table with ⟨-, hsame⟩ | ⟨haccepted', -⟩
    · rwa [hsame] at hmem
    · exact absurd haccepted' haccepted

theorem currentPmtPid_handlePmt (d : CaptionDumper δ) (table : BinaryTable) :
    (d.handlePmt table).currentPmtPid = d.currentPmtPid := by
  rcases handlePmt_cases d table with ⟨-, hsame⟩ | ⟨-, hsynced⟩
  · rw [hsame]
  · rw [hsynced]
    exact (onlyStreams_syncCaptionStreams _ _ _).currentPmtPid

section
variable [TSDuck] [CaptionDecoder δ]

theorem step_pmt (d : CaptionDumper δ) {table : BinaryTable} (h : table.tableId = TID_PMT) :
    d.step (.table table) = (d.handlePmt table, []) := by
  have hpat : table.tableId ≠ TID_PAT := by
    rw [h]
    decide
  rw [step, handleTable, if_neg hpat, if_pos h]

theorem Registers.mem {d : CaptionDumper δ} {table : BinaryTable} {pid : PID}
    (h : d.Registers table pid) : pid ∈ (d.step (.table table)).1.captionEmitters := by
  obtain ⟨hid, haccepted, stream, profile, hstream, hprofile, -⟩ := h
  rw [step_pmt d hid]
  exact (mem_handlePmt haccepted pid).mpr ⟨stream, profile, hstream, hprofile⟩

/-! ## The PMT PID as the PATs give it -/

/-- The PMT PID of the service as the PATs so far give it. -/
def listedPmtPid (targetSid : UInt16) (inputs : List Input) : Option PID :=
  inputs.foldl (fun current input =>
    match input with
    | .table table => if table.tableId = TID_PAT then followPat targetSid current table.pat else current
    | _ => current) none

theorem currentPmtPid_step {d : CaptionDumper δ}
    (hreserved : d.reservedSectionPids = initialSectionPids) (input : Input) :
    (d.step input).1.currentPmtPid =
      match input with
      | .table table =>
        if table.tableId = TID_PAT then followPat d.targetSid d.currentPmtPid table.pat else d.currentPmtPid
      | _ => d.currentPmtPid := by
  rcases step_cases d input with ⟨table, rfl, hid, hpat⟩ | ⟨table, rfl, hid, hpmt⟩ | ⟨hother, hsame⟩
  · rw [hpat, currentPmtPid_handlePat d table hreserved]
    simp only [if_pos hid]
  · have hpat : table.tableId ≠ TID_PAT := by
      rw [hid]
      decide
    rw [hpmt]
    simp only [if_neg hpat]
    exact currentPmtPid_handlePmt d table
  · rw [hsame.currentPmtPid]
    split
    · next table => rw [if_neg (hother table rfl).1]
    · rfl

theorem currentPmtPid_run (targetSid : UInt16) (options : CaptionDumperOptions)
    (makeDecoderFactory : Profile → CaptionDecoderFactory δ) (inputs : List Input) :
    (Machine.run step (new targetSid options makeDecoderFactory) inputs).currentPmtPid =
      listedPmtPid targetSid inputs := by
  induction inputs using List.reverseRecOn with
  | nil => rfl
  | append_singleton inputs input ih =>
    obtain ⟨hsid, hreserved⟩ := service_run (new targetSid options makeDecoderFactory) inputs
    rw [Machine.run_concat, currentPmtPid_step hreserved, ih, hsid]
    unfold listedPmtPid
    rw [List.foldl_append]
    rfl

/-! ## Where an emitter comes from -/

variable (start : CaptionDumper δ)

/-- The state after the inputs. -/
def state (inputs : List Input) : CaptionDumper δ := Machine.run step start inputs

theorem state_concat (inputs : List Input) (input : Input) :
    state start (inputs ++ [input]) = ((state start inputs).step input).1 :=
  Machine.run_concat step start inputs input

/-- The emitter of `pid` comes from `table`: that registered it after `pre`, and nothing registered it in `post`.
The table was received on `pmtPid`, which was the PMT PID then and ever since. -/
structure Origin (pid pmtPid : PID) (past pre : List Input) (table : BinaryTable) (post : List Input) :
    Prop where
  split : past = pre ++ .table table :: post
  registers : (state start pre).Registers table pid
  receivedOn : table.sourcePID = pmtPid
  adopted : (state start pre).currentPmtPid = some pmtPid
  kept : ∀ mid rest, post = mid ++ rest →
    (state start (pre ++ .table table :: mid)).currentPmtPid = some pmtPid
  last : ∀ mid table' rest, post = mid ++ .table table' :: rest →
    ¬ (state start (pre ++ .table table :: mid)).Registers table' pid

/-- Captions are tracked on the PAT's authority. -/
structure Authorised (past : List Input) : Prop where
  listed : (state start past).currentPmtPid = listedPmtPid start.targetSid past
  inert : (state start past).currentPmtPid = none →
    (state start past).captionEmitters = ∅ ∧ (state start past).pesDemux.pids = ∅ ∧
      ∀ packet, ((state start past).step (.pes packet)).2 = []
  origin : ∀ pmtPid, (state start past).currentPmtPid = some pmtPid →
    ∀ pid, pid ∈ (state start past).captionEmitters → ∃ pre table post, Origin start pid pmtPid past pre table post

/-- Every table of the run that registers a stream is received on the PMT PID. -/
def OnAuthority (inputs : List Input) : Prop :=
  ∀ past table pid, past ++ [.table table] <+: inputs → (state start past).Registers table pid →
    (state start past).currentPmtPid = some table.sourcePID

variable {start}

/-- A registration that has just happened. -/
theorem Origin.here {past : List Input} {table : BinaryTable} {pid : PID}
    (hreg : (state start past).Registers table pid)
    (hcurrent : (state start past).currentPmtPid = some table.sourcePID) :
    Origin start pid table.sourcePID (past ++ [.table table]) past table [] := by
  refine ⟨rfl, hreg, rfl, hcurrent, ?_, ?_⟩
  · intro mid rest hsplit
    rw [(List.append_eq_nil_iff.mp hsplit.symm).1, state_concat, step_pmt _ hreg.1,
      currentPmtPid_handlePmt, hcurrent]
  · intro mid table' rest hsplit
    simp at hsplit

/-- An origin stays one over an input that keeps the PMT PID and does not register the stream again. -/
theorem Origin.concat {pid pmtPid : PID} {past pre post : List Input} {table : BinaryTable}
    {input : Input} (h : Origin start pid pmtPid past pre table post)
    (hcurrent : (state start (past ++ [input])).currentPmtPid = some pmtPid)
    (hnot : ∀ table', input = .table table' → ¬ (state start past).Registers table' pid) :
    Origin start pid pmtPid (past ++ [input]) pre table (post ++ [input]) := by
  have hsplit := h.split
  subst hsplit
  refine ⟨by simp, h.registers, h.receivedOn, h.adopted, ?_, ?_⟩
  · intro mid rest hrest
    rcases List.eq_nil_or_concat rest with rfl | ⟨rest, x, rfl⟩
    · rw [List.append_nil] at hrest
      rw [← hrest]
      simpa using hcurrent
    · rw [List.concat_eq_append, ← List.append_assoc] at hrest
      exact h.kept mid rest (List.append_inj' hrest rfl).1
  · intro mid table' rest hrest
    rcases List.eq_nil_or_concat rest with rfl | ⟨rest, x, rfl⟩
    · obtain ⟨rfl, hinput⟩ := List.append_inj' hrest rfl
      exact hnot table' (List.cons.inj hinput).1
    · rw [List.concat_eq_append, ← List.cons_append, ← List.append_assoc] at hrest
      exact h.last mid table' rest (List.append_inj' hrest rfl).1

/-- No emitter without a PMT PID, and an origin for each emitter otherwise. -/
def Tracked (start : CaptionDumper δ) (past : List Input) : Prop :=
  match (state start past).currentPmtPid with
  | none => (state start past).captionEmitters = ∅
  | some pmtPid => ∀ pid, pid ∈ (state start past).captionEmitters →
      ∃ pre table post, Origin start pid pmtPid past pre table post

/-- Where no emitter is, every claim about their origins holds. -/
theorem tracked_of_empty {past : List Input} (h : (state start past).captionEmitters = ∅) :
    Tracked start past := by
  unfold Tracked
  split
  · exact h
  · intro pid hpid
    rw [h] at hpid
    exact absurd hpid Std.ExtTreeMap.not_mem_empty

/-- An input that keeps the PMT PID and whose new emitters are registered under it keeps the origins. -/
theorem Tracked.concat {past : List Input} {input : Input} (h : Tracked start past)
    (hcurrent : (state start (past ++ [input])).currentPmtPid = (state start past).currentPmtPid)
    (hemitters : ∀ pid, pid ∈ (state start (past ++ [input])).captionEmitters →
      (∃ table, input = .table table ∧ (state start past).Registers table pid ∧
        (state start past).currentPmtPid = some table.sourcePID) ∨
      (pid ∈ (state start past).captionEmitters ∧
        ∀ table, input = .table table → ¬ (state start past).Registers table pid)) :
    Tracked start (past ++ [input]) := by
  unfold Tracked at h ⊢
  rw [hcurrent]
  split at h
  · next hnone =>
    rw [Std.ExtTreeMap.eq_empty_iff_forall_not_mem]
    intro pid hpid
    rcases hemitters pid hpid with ⟨table, -, -, hsome⟩ | ⟨hbefore, -⟩
    · rw [hnone] at hsome
      cases hsome
    · rw [h] at hbefore
      exact Std.ExtTreeMap.not_mem_empty hbefore
  · next pmtPid hsome =>
    intro pid hpid
    rcases hemitters pid hpid with ⟨table, rfl, hreg, hon⟩ | ⟨hbefore, hnot⟩
    · obtain rfl : pmtPid = table.sourcePID := Option.some.inj (hsome.symm.trans hon)
      exact ⟨past, table, [], Origin.here hreg hon⟩
    · obtain ⟨pre, table, post, horigin⟩ := h pid hbefore
      exact ⟨pre, table, post ++ [input], horigin.concat (hcurrent.trans hsome) hnot⟩

/-- **One step on the PAT's authority.** -/
theorem Tracked.step {past : List Input} {input : Input} (h : Tracked start past)
    (hon : ∀ table pid, input = .table table → (state start past).Registers table pid →
      (state start past).currentPmtPid = some table.sourcePID) : Tracked start (past ++ [input]) := by
  rcases step_cases (state start past) input with ⟨table, rfl, hid, hpat⟩ | ⟨table, rfl, hid, hpmt⟩ | ⟨hother, hsame⟩
  · have hstate : state start (past ++ [.table table]) = ((state start past).handlePat table).1 := by
      rw [state_concat, hpat]
    have hnot : ∀ pid, ¬ (state start past).Registers table pid := by
      intro pid hreg
      exact absurd (hid.symm.trans hreg.1) (by decide)
    rcases handlePat_cases (state start past) table with hkept | hvanished | ⟨pmtPid, -, hadopted⟩
    · refine h.concat (by rw [hstate, hkept]) fun pid hpid => .inr ⟨?_, ?_⟩
      · rwa [hstate, hkept] at hpid
      · rintro _ ⟨⟩
        exact hnot pid
    · apply tracked_of_empty
      rw [hstate, hvanished, captionEmitters_teardownTargetService]
    · apply tracked_of_empty
      rw [hstate, hadopted]
      -- a new PMT PID is adopted with no emitter left over
      show (state start past).beforeAdoption.captionEmitters = ∅
      unfold beforeAdoption
      split
      · exact captionEmitters_teardownTargetService _
      · next hnone =>
        unfold Tracked at h
        rw [Option.not_isSome_iff_eq_none.mp hnone] at h
        exact h
  · have hstate : state start (past ++ [.table table]) = (state start past).handlePmt table := by
      rw [state_concat, hpmt]
    refine h.concat (by rw [hstate, currentPmtPid_handlePmt]) fun pid hpid => ?_
    by_cases hreg : (state start past).Registers table pid
    · exact .inl ⟨table, rfl, hreg, hon table pid rfl hreg⟩
    · rw [hstate] at hpid
      refine .inr ⟨mem_of_not_registers hid hreg hpid, ?_⟩
      rintro _ ⟨⟩
      exact hreg
  · refine h.concat (by rw [state_concat, hsame.currentPmtPid]) fun pid hpid => .inr ⟨?_, ?_⟩
    · rwa [state_concat, hsame.emitterPids] at hpid
    · intro table hinput hreg
      exact (hother table hinput).2 hreg.1

/-! ## Runs -/

theorem tracked_run {inputs : List Input} (hstart : start.captionEmitters = ∅)
    (hon : OnAuthority start inputs)
    (past : List Input) (hpast : past <+: inputs) : Tracked start past := by
  induction past using List.reverseRecOn with
  | nil => exact tracked_of_empty hstart
  | append_singleton past input ih =>
    refine (ih ((List.prefix_append past [input]).trans hpast)).step ?_
    rintro table pid rfl hreg
    exact hon past table pid hpast hreg

/-- A stream that was registered away from the PMT PID has no origin there. -/
theorem Authorised.on {past : List Input} {table : BinaryTable} {pid : PID}
    (h : Authorised start (past ++ [.table table])) (hreg : (state start past).Registers table pid) :
    (state start past).currentPmtPid = some table.sourcePID := by
  have hmem : pid ∈ (state start (past ++ [.table table])).captionEmitters := by
    rw [state_concat]
    exact hreg.mem
  have hcurrent : (state start (past ++ [.table table])).currentPmtPid = (state start past).currentPmtPid := by
    rw [state_concat, step_pmt _ hreg.1]
    exact currentPmtPid_handlePmt _ _
  cases hpmtPid : (state start past).currentPmtPid with
  | none =>
    rw [(h.inert (hcurrent.trans hpmtPid)).1] at hmem
    exact absurd hmem Std.ExtTreeMap.not_mem_empty
  | some pmtPid =>
    obtain ⟨pre, table', post, horigin⟩ := h.origin pmtPid (hcurrent.trans hpmtPid) pid hmem
    have hsplit := horigin.split
    rcases List.eq_nil_or_concat post with rfl | ⟨post, input, rfl⟩
    · obtain ⟨rfl, htable⟩ := List.append_inj' hsplit rfl
      cases htable
      rw [horigin.receivedOn]
    · -- the registration of this table would come after the origin
      rw [List.concat_eq_append, ← List.cons_append, ← List.append_assoc] at hsplit
      obtain ⟨rfl, hinput⟩ := List.append_inj' hsplit rfl
      cases hinput
      exact absurd hreg (horigin.last post table [] (List.concat_eq_append ..))

/-- **Captions are tracked on the PAT's authority in every state of a run exactly if every table that registers a
stream is received on the PMT PID.** -/
theorem authorised_iff (targetSid : UInt16) (options : CaptionDumperOptions)
    (makeDecoderFactory : Profile → CaptionDecoderFactory δ) (inputs : List Input) :
    (∀ past, past <+: inputs → Authorised (new targetSid options makeDecoderFactory) past) ↔
      OnAuthority (new targetSid options makeDecoderFactory) inputs := by
  constructor
  · intro h past table pid hpast hreg
    exact (h _ hpast).on hreg
  · intro hon past hpast
    have htracked : Tracked (new targetSid options makeDecoderFactory) past := tracked_run rfl hon past hpast
    have hlockstep : Lockstep (state (new targetSid options makeDecoderFactory) past) :=
      lockstep_reachable targetSid options makeDecoderFactory past
    refine ⟨currentPmtPid_run targetSid options makeDecoderFactory past, fun hnone => ?_, fun pmtPid hsome => ?_⟩
    · rw [Tracked, hnone] at htracked
      have hempty : (state (new targetSid options makeDecoderFactory) past).captionEmitters = ∅ := htracked
      refine ⟨hempty, ?_, fun packet => ?_⟩
      · rw [Finset.eq_empty_iff_forall_notMem]
        intro pid hpid
        rw [hlockstep.pes pid, hempty] at hpid
        exact Std.ExtTreeMap.not_mem_empty hpid
      · rw [step, handlePESPacket, hempty, Std.ExtTreeMap.getElem?_empty]
    · rw [Tracked, hsome] at htracked
      exact htracked

end

/-! ## A PMT away from the PMT PID -/

/-- A PMT of service 1, received on the PID of the EIT. -/
def pmtOnEitPid : BinaryTable := .ofPmt PID_EIT ⟨true, 1, 0x100, oneCaptionStream⟩

/-- A caption packet of that stream, without a PTS. -/
def captionPacket : PESPacket := ⟨0x130, false, [], [0x80]⟩

/-- **With no PAT at all**, a PMT of the service received on the demuxed EIT PID has its caption stream demuxed and
its captions emitted. -/
theorem pmtOnEitPid_tracked :
    letI := TSDuck.documented
    letI := CaptionDecoder.always ⟨[65], [], 0⟩
    pmtOnEitPid.sourcePID ∈ dumperOfService1.sectionDemux.pids ∧
    (state dumperOfService1 [.table pmtOnEitPid]).currentPmtPid = none ∧
    0x130 ∈ (state dumperOfService1 [.table pmtOnEitPid]).captionEmitters ∧
    0x130 ∈ (state dumperOfService1 [.table pmtOnEitPid]).pesDemux.pids ∧
    ((state dumperOfService1 [.table pmtOnEitPid]).step (.pes captionPacket)).2 =
      [.caption ⟨none, [65], [], none, none⟩] ∧
    ¬ Authorised dumperOfService1 [.table pmtOnEitPid] := by
  let := TSDuck.documented
  let := CaptionDecoder.always ⟨[65], [], 0⟩
  have hnone : (state dumperOfService1 [.table pmtOnEitPid]).currentPmtPid = none := by decide
  have hmem : 0x130 ∈ (state dumperOfService1 [.table pmtOnEitPid]).captionEmitters := by decide
  refine ⟨by decide, hnone, hmem, by decide, by decide, ?_⟩
  intro h
  rw [(h.inert hnone).1] at hmem
  exact Std.ExtTreeMap.not_mem_empty hmem

end AribcapDump.CaptionDumper
