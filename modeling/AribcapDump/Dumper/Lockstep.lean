import AribcapDump.Dumper.Steps

/-!
# The filters in lockstep with the bookkeeping

`section_demux_` filters the reserved PIDs and `current_pmt_pid_`, `pes_demux_`
the PIDs that have an emitter, whatever tables and packets arrive.

* `Lockstep.step`: every input keeps the invariant.
* `lockstep_run`: what it says of every reachable state.
-/

namespace AribcapDump.CaptionDumper

variable {δ : Type}

/-! ## The PES side -/

/-- `pes_demux_` filters exactly the PIDs with an emitter. -/
def PesLockstep (d : CaptionDumper δ) : Prop := ∀ pid, pid ∈ d.pesDemux.pids ↔ pid ∈ d.captionEmitters

theorem PesLockstep.unregister {d : CaptionDumper δ} (h : PesLockstep d) (pid : PID) :
    PesLockstep (d.unregisterCaptionStream pid) := by
  intro a
  unfold unregisterCaptionStream
  rw [Demux.pids_removePID, Finset.mem_erase, Std.ExtTreeMap.mem_erase, h a]
  simp [ne_comm]

theorem PesLockstep.register {d : CaptionDumper δ} (h : PesLockstep d) (pid : PID) (profile : Profile) :
    PesLockstep (d.registerCaptionStream pid profile) := by
  intro a
  unfold registerCaptionStream
  rw [Demux.pids_addPID, Finset.mem_insert, Std.ExtTreeMap.mem_insertIfNew, h a,
    Std.LawfulEqCmp.compare_eq_iff_eq, eq_comm]

theorem PesLockstep.teardown {d : CaptionDumper δ} (h : PesLockstep d) :
    PesLockstep d.teardownTargetService := by
  have hdrop : PesLockstep d.dropPmtPid := by
    unfold dropPmtPid
    split
    · exact h
    · exact h
  rw [teardownTargetService_eq]
  exact foldl_unregister_keeps (fun _ pid h => h.unregister pid) hdrop _

/-! ## The invariant -/

structure Lockstep (d : CaptionDumper δ) : Prop where
  reserved : d.reservedSectionPids = initialSectionPids
  sectionPids : d.sectionDemux.pids = d.reservedSectionPids ∪ d.currentPmtPid.toFinset
  notReserved : ∀ pid, d.currentPmtPid = some pid → pid ∉ d.reservedSectionPids
  /-- No reserved PID was ever removed. -/
  neverRemoved : ∀ pid ∈ d.reservedSectionPids, .removePID pid ∉ d.sectionDemux.calls
  pes : PesLockstep d

theorem lockstep_new (targetSid : UInt16) (options : CaptionDumperOptions)
    (makeDecoderFactory : Profile → CaptionDecoderFactory δ) : Lockstep (new targetSid options makeDecoderFactory) := by
  refine ⟨rfl, rfl, ?_, ?_, ?_⟩
  · intro pid hpid
    cases hpid
  · intro pid _ hcall
    cases hcall
  · intro pid
    simp [new, Demux.pids]

/-- The section side does not see the emitters. -/
theorem Lockstep.of_onlyStreams {d d' : CaptionDumper δ} (h : Lockstep d) (hframe : OnlyStreams d d')
    (hpes : PesLockstep d') : Lockstep d' := by
  refine ⟨?_, ?_, ?_, ?_, hpes⟩
  · rw [hframe.reservedSectionPids, h.reserved]
  · rw [hframe.sectionDemux, hframe.reservedSectionPids, hframe.currentPmtPid, h.sectionPids]
  · rw [hframe.currentPmtPid, hframe.reservedSectionPids]
    exact h.notReserved
  · rw [hframe.sectionDemux, hframe.reservedSectionPids]
    exact h.neverRemoved

theorem Lockstep.of_sameRouting {d d' : CaptionDumper δ} (h : Lockstep d) (hsame : SameRouting d d') :
    Lockstep d' := by
  refine ⟨?_, ?_, ?_, ?_, ?_⟩
  · rw [hsame.reservedSectionPids, h.reserved]
  · rw [hsame.sectionDemux, hsame.reservedSectionPids, hsame.currentPmtPid, h.sectionPids]
  · rw [hsame.currentPmtPid, hsame.reservedSectionPids]
    exact h.notReserved
  · rw [hsame.sectionDemux, hsame.reservedSectionPids]
    exact h.neverRemoved
  · intro pid
    rw [hsame.pesDemux, hsame.emitterPids, h.pes pid]

theorem Lockstep.dropPmtPid {d : CaptionDumper δ} (h : Lockstep d) : Lockstep d.dropPmtPid := by
  unfold CaptionDumper.dropPmtPid
  split
  · next pmtPid hcurrent =>
    have hnot := h.notReserved pmtPid hcurrent
    refine ⟨h.reserved, ?_, ?_, ?_, h.pes⟩
    · show (d.sectionDemux.removePID pmtPid).pids = d.reservedSectionPids ∪ ∅
      rw [Demux.pids_removePID, h.sectionPids, hcurrent, Option.toFinset_some,
        Finset.erase_union_distrib, Finset.erase_eq_of_notMem hnot, Finset.erase_singleton]
    · intro pid hpid
      cases hpid
    · intro pid hpid hcall
      show False
      rcases List.mem_append.mp hcall with hbefore | hnow
      · exact h.neverRemoved pid hpid hbefore
      · rw [List.mem_singleton, DemuxCall.removePID.injEq] at hnow
        exact hnot (hnow ▸ hpid)
  · exact h

theorem Lockstep.teardown {d : CaptionDumper δ} (h : Lockstep d) : Lockstep d.teardownTargetService :=
  h.dropPmtPid.of_onlyStreams (onlyStreams_teardownTargetService d) h.pes.teardown

theorem Lockstep.beforeAdoption {d : CaptionDumper δ} (h : Lockstep d) : Lockstep d.beforeAdoption := by
  unfold CaptionDumper.beforeAdoption
  split
  · exact h.teardown
  · exact h

theorem Lockstep.adoptPmtPid {d : CaptionDumper δ} (h : Lockstep d) (hnone : d.currentPmtPid = none)
    {pmtPid : PID} (hnot : pmtPid ∉ initialSectionPids) : Lockstep (d.adoptPmtPid pmtPid) := by
  refine ⟨h.reserved, ?_, ?_, ?_, h.pes⟩
  · show (d.sectionDemux.addPID pmtPid).pids = d.reservedSectionPids ∪ {pmtPid}
    rw [Demux.pids_addPID, h.sectionPids, hnone, Option.toFinset_none, Finset.union_empty,
      Finset.insert_eq, Finset.union_comm]
  · rintro pid ⟨⟩
    show pmtPid ∉ d.reservedSectionPids
    rwa [h.reserved]
  · intro pid hpid hcall
    rcases List.mem_append.mp hcall with hbefore | hnow
    · exact h.neverRemoved pid hpid hbefore
    · rw [List.mem_singleton] at hnow
      cases hnow

theorem Lockstep.handlePat {d : CaptionDumper δ} (h : Lockstep d) (table : BinaryTable) :
    Lockstep (d.handlePat table).1 := by
  rcases handlePat_cases d table with hsame | hvanished | ⟨pmtPid, hreserved, hadopted⟩
  · rw [hsame]
    exact h
  · rw [hvanished]
    exact h.teardown
  · rw [hadopted]
    rw [h.reserved] at hreserved
    exact h.beforeAdoption.adoptPmtPid (currentPmtPid_beforeAdoption d) hreserved

theorem Lockstep.handlePmt {d : CaptionDumper δ} (h : Lockstep d) (table : BinaryTable) :
    Lockstep (d.handlePmt table) := by
  rcases handlePmt_cases d table with ⟨-, hsame⟩ | ⟨-, hsynced⟩
  · rw [hsame]
    exact h
  · rw [hsynced]
    have hclock : Lockstep { d with programClock := d.programClock.setPcrPid table.pmt.pcrPid } :=
      ⟨h.reserved, h.sectionPids, h.notReserved, h.neverRemoved, h.pes⟩
    refine hclock.of_onlyStreams (onlyStreams_syncCaptionStreams _ _ _) ?_
    exact syncCaptionStreams_keeps (fun _ pid h => h.unregister pid) (fun _ pid profile h => h.register pid profile)
      hclock.pes _ _

/-! ## Runs -/

variable [TSDuck] [CaptionDecoder δ]

theorem Lockstep.step {d : CaptionDumper δ} (h : Lockstep d) (input : Input) :
    Lockstep (d.step input).1 := by
  rcases step_cases d input with ⟨table, rfl, -, hpat⟩ | ⟨table, rfl, -, hpmt⟩ | ⟨-, hsame⟩
  · rw [hpat]
    exact h.handlePat table
  · rw [hpmt]
    exact h.handlePmt table
  · exact h.of_sameRouting hsame

theorem lockstep_reachable (targetSid : UInt16) (options : CaptionDumperOptions)
    (makeDecoderFactory : Profile → CaptionDecoderFactory δ) (inputs : List Input) :
    Lockstep (Machine.run step (new targetSid options makeDecoderFactory) inputs) :=
  Machine.run_invariant step (fun _ input h => h.step input) (lockstep_new _ _ _) inputs

/-- **The filters and the bookkeeping agree in every reachable state.** -/
theorem lockstep_run (targetSid : UInt16) (options : CaptionDumperOptions)
    (makeDecoderFactory : Profile → CaptionDecoderFactory δ) (inputs : List Input) :
    let d := Machine.run step (new targetSid options makeDecoderFactory) inputs
    d.reservedSectionPids = {PID_PAT, PID_EIT, PID_ISDB_EIT_3, PID_TOT} ∧
    d.sectionDemux.pids = d.reservedSectionPids ∪ d.currentPmtPid.toFinset ∧
    (∀ pid, d.currentPmtPid = some pid → pid ∉ d.reservedSectionPids) ∧
    (∀ pid ∈ d.reservedSectionPids, .removePID pid ∉ d.sectionDemux.calls ∧ pid ∈ d.sectionDemux.pids) ∧
    (d.sectionDemux.pids \ d.reservedSectionPids).card ≤ 1 ∧
    (∀ pid, pid ∈ d.pesDemux.pids ↔ pid ∈ d.captionEmitters) := by
  intro d
  have h : Lockstep d := lockstep_reachable targetSid options makeDecoderFactory inputs
  refine ⟨h.reserved, h.sectionPids, h.notReserved, ?_, ?_, h.pes⟩
  · intro pid hpid
    refine ⟨h.neverRemoved pid hpid, ?_⟩
    rw [h.sectionPids]
    exact Finset.mem_union_left _ hpid
  · calc (d.sectionDemux.pids \ d.reservedSectionPids).card
        ≤ d.currentPmtPid.toFinset.card := by
          rw [h.sectionPids]
          apply Finset.card_le_card
          intro pid hpid
          rw [Finset.mem_sdiff, Finset.mem_union] at hpid
          exact hpid.1.resolve_left hpid.2
      _ ≤ 1 := by cases d.currentPmtPid <;> simp

end AribcapDump.CaptionDumper
