import AribcapDump.Dumper.Lockstep

/-!
# What a PMT changes, and what it leaves alone

* `kept_syncCaptionStreams`: an emitter whose stream keeps its profile is the one that was there, and its PID is
  never taken out of `pes_demux_`.
* `syncCaptionStreams_again`: the same PMT again changes nothing.
* `syncCaptionStreams_exact`: all that `SyncCaptionStreams` leaves.
-/

namespace AribcapDump.CaptionDumper

variable {δ : Type}

/-! ## Kept streams -/

/-- Since `d` the PID has kept its emitter `e` and was never removed from `pes_demux_`. -/
structure Kept (d : CaptionDumper δ) (pid : PID) (e : CaptionRecordEmitter δ) (d' : CaptionDumper δ) : Prop where
  emitter : d'.captionEmitters[pid]? = some e
  neverRemoved : ∃ calls, d'.pesDemux.calls = d.pesDemux.calls ++ calls ∧ .removePID pid ∉ calls

variable {d d' : CaptionDumper δ} {pid : PID} {e : CaptionRecordEmitter δ}

theorem Kept.refl (hemitter : d.captionEmitters[pid]? = some e) : Kept d pid e d :=
  ⟨hemitter, [], by simp, by simp⟩

theorem Kept.unregister (h : Kept d pid e d') {other : PID} (hne : other ≠ pid) :
    Kept d pid e (d'.unregisterCaptionStream other) := by
  obtain ⟨hemitter, calls, hcalls, hnot⟩ := h
  refine ⟨?_, calls ++ [.removePID other], ?_, ?_⟩
  · rw [captionEmitters_unregister, if_neg hne, hemitter]
  · show d'.pesDemux.calls ++ [.removePID other] = _
    rw [hcalls, List.append_assoc]
  · intro hmem
    rcases List.mem_append.mp hmem with hbefore | hnow
    · exact hnot hbefore
    · rw [List.mem_singleton, DemuxCall.removePID.injEq] at hnow
      exact hne hnow.symm

theorem Kept.register (h : Kept d pid e d') (other : PID) (profile : Profile) :
    Kept d pid e (d'.registerCaptionStream other profile) := by
  obtain ⟨hemitter, calls, hcalls, hnot⟩ := h
  refine ⟨?_, calls ++ [.addPID other], ?_, ?_⟩
  · rw [captionEmitters_register, if_neg, hemitter]
    rintro ⟨rfl, hnew⟩
    exact hnew (mem_captionEmitters.mpr ⟨e, hemitter⟩)
  · show d'.pesDemux.calls ++ [.addPID other] = _
    rw [hcalls, List.append_assoc]
  · intro hmem
    rcases List.mem_append.mp hmem with hbefore | hnow
    · exact hnot hbefore
    · rw [List.mem_singleton] at hnow
      cases hnow

/-- The second loop leaves a stream with its profile alone. -/
theorem Kept.syncStream (h : Kept d pid e d') {other : PID} {profile : Profile}
    (hsame : other = pid → profile = e.profile) :
    Kept d pid e (d'.syncStream other profile) := by
  unfold CaptionDumper.syncStream
  split
  · exact h.register other profile
  · next current hcurrent =>
    split
    · next hchanged =>
      have hne : other ≠ pid := by
        intro heq
        rw [heq, h.emitter] at hcurrent
        cases hcurrent
        exact hchanged (hsame heq).symm
      exact (h.unregister hne).register other profile
    · exact h

/-- **A stream that keeps its profile** keeps its emitter, and a PES in assembly is not lost. -/
theorem kept_syncCaptionStreams (pmtPid : PID) (streams : Std.ExtTreeMap PID Stream)
    (hemitter : d.captionEmitters[pid]? = some e)
    (hprofile : streams[pid]?.bind (classifyCaptionStream pmtPid) = some e.profile) :
    Kept d pid e (d.syncCaptionStreams pmtPid streams) := by
  have hdesired : (desiredStreams pmtPid streams)[pid]? = some e.profile := by
    rw [getElem?_desiredStreams, hprofile]
  unfold syncCaptionStreams
  generalize desiredStreams pmtPid streams = desired at hdesired
  have hfirst : ∀ (pids : List PID) (d' : CaptionDumper δ), Kept d pid e d' →
      Kept d pid e (pids.foldl (fun d pid => if desired.contains pid then d else d.unregisterCaptionStream pid) d') := by
    intro pids
    induction pids with
    | nil => exact fun d' h => h
    | cons other pids ih =>
      intro d' h
      rw [List.foldl_cons]
      apply ih
      split
      · exact h
      · next hundesired =>
        apply h.unregister
        rintro rfl
        rw [Std.ExtTreeMap.contains_eq_isSome_getElem?, hdesired] at hundesired
        exact hundesired rfl
  refine MapFold.foldl_keeps_of_mem (P := Kept d pid e) CaptionDumper.syncStream desired ?_ (hfirst _ d (.refl hemitter))
  intro d' other profile hmem h
  apply h.syncStream
  rintro rfl
  rw [hdesired] at hmem
  exact (Option.some.inj hmem).symm

/-! ## The same PMT again -/

/-- The first loop with nothing to unregister. -/
theorem foldl_unregister_if_of_kept {keep : PID → Bool} {pids : List PID} (hkeep : ∀ pid ∈ pids, keep pid = true)
    (d : CaptionDumper δ) :
    pids.foldl (fun d pid => if keep pid then d else d.unregisterCaptionStream pid) d = d := by
  induction pids with
  | nil => rfl
  | cons pid pids ih =>
    obtain ⟨hpid, hpids⟩ := List.forall_mem_cons.mp hkeep
    rw [List.foldl_cons, if_pos hpid, ih hpids]

/-- Where each classified stream, and no other, has an emitter of its profile, the PMT changes nothing. -/
theorem syncCaptionStreams_eq_self {pmtPid : PID} {streams : Std.ExtTreeMap PID Stream}
    (hprofiles : ∀ pid : PID, d.captionEmitters[pid]?.map (·.profile) =
      streams[pid]?.bind (classifyCaptionStream pmtPid)) :
    d.syncCaptionStreams pmtPid streams = d := by
  have hdesired : ∀ pid : PID, (desiredStreams pmtPid streams)[pid]? = d.captionEmitters[pid]?.map (·.profile) := by
    intro pid
    rw [getElem?_desiredStreams, hprofiles]
  unfold syncCaptionStreams
  generalize desiredStreams pmtPid streams = desired at hdesired
  have hfirst : d.captionEmitters.keys.foldl
      (fun d pid => if desired.contains pid then d else d.unregisterCaptionStream pid) d = d := by
    apply foldl_unregister_if_of_kept
    intro pid hpid
    obtain ⟨e, he⟩ := mem_captionEmitters.mp (Std.ExtTreeMap.mem_keys.mp hpid)
    rw [Std.ExtTreeMap.contains_eq_isSome_getElem?, hdesired, he]
    rfl
  simp only [hfirst]
  refine MapFold.foldl_keeps_of_mem (P := fun d' => d' = d) CaptionDumper.syncStream desired ?_ rfl
  intro d' pid profile hmem hsame
  rw [hdesired, Option.map_eq_some_iff] at hmem
  obtain ⟨e, he, hprofile⟩ := hmem
  rw [hsame]
  unfold CaptionDumper.syncStream
  simp [he, hprofile]

theorem profile_reconciled (d : CaptionDumper δ) (current : Option (CaptionRecordEmitter δ)) (profile : Profile) :
    (d.reconciled current profile).profile = profile := by
  unfold reconciled
  split
  · split
    · next hsame => exact hsame
    · rfl
  · rfl

/-- After the PMT each classified stream, and no other, has an emitter of its profile. -/
theorem profiles_syncCaptionStreams (d : CaptionDumper δ) (pmtPid : PID) (streams : Std.ExtTreeMap PID Stream)
    (pid : PID) :
    (d.syncCaptionStreams pmtPid streams).captionEmitters[pid]?.map (·.profile) =
      streams[pid]?.bind (classifyCaptionStream pmtPid) := by
  rw [captionEmitters_syncCaptionStreams, Option.map_map]
  convert Option.map_id' using 2
  funext profile
  exact profile_reconciled d _ profile

theorem syncCaptionStreams_again (d : CaptionDumper δ) (pmtPid : PID) (streams : Std.ExtTreeMap PID Stream) :
    (d.syncCaptionStreams pmtPid streams).syncCaptionStreams pmtPid streams = d.syncCaptionStreams pmtPid streams :=
  syncCaptionStreams_eq_self (profiles_syncCaptionStreams d pmtPid streams)

/-! ## All of it -/

/-- A stream that is new, or whose profile changed, has a fresh emitter. -/
theorem freshEmitter_syncCaptionStreams {pmtPid : PID} {streams : Std.ExtTreeMap PID Stream} {profile : Profile}
    (hprofile : streams[pid]?.bind (classifyCaptionStream pmtPid) = some profile)
    (hnew : ∀ e, d.captionEmitters[pid]? = some e → e.profile ≠ profile) :
    (d.syncCaptionStreams pmtPid streams).captionEmitters[pid]? = some (d.freshEmitter profile) := by
  rw [captionEmitters_syncCaptionStreams, hprofile, Option.map_some, Option.some.injEq]
  unfold reconciled
  split
  · next e he => rw [if_neg (hnew e he)]
  · rfl

/-- **What a PMT leaves:** an emitter of its profile for exactly the classified streams, filtered by `pes_demux_`; the
emitter that was there, and its PID in the filter all along, where the profile is the same, a fresh one elsewhere.
The same PMT again changes nothing. -/
theorem syncCaptionStreams_exact (d : CaptionDumper δ) (hpes : PesLockstep d) (pmtPid : PID)
    (streams : Std.ExtTreeMap PID Stream) :
    let d' := d.syncCaptionStreams pmtPid streams
    let classified (pid : PID) : Option Profile := streams[pid]?.bind (classifyCaptionStream pmtPid)
    (∀ (pid : PID) profile, (∃ e, d'.captionEmitters[pid]? = some e ∧ e.profile = profile) ↔ classified pid = some profile) ∧
    (∀ pid, pid ∈ d'.pesDemux.pids ↔ ∃ profile, classified pid = some profile) ∧
    (∀ (pid : PID) e, d.captionEmitters[pid]? = some e → classified pid = some e.profile → Kept d pid e d') ∧
    (∀ (pid : PID) profile, classified pid = some profile →
      (∀ e, d.captionEmitters[pid]? = some e → e.profile ≠ profile) →
      d'.captionEmitters[pid]? = some (d.freshEmitter profile)) ∧
    d'.syncCaptionStreams pmtPid streams = d' := by
  intro d' classified
  have hprofiles : ∀ pid : PID, d'.captionEmitters[pid]?.map (·.profile) = classified pid :=
    profiles_syncCaptionStreams d pmtPid streams
  have hlockstep : PesLockstep d' :=
    syncCaptionStreams_keeps (fun _ pid h => h.unregister pid) (fun _ pid profile h => h.register pid profile)
      hpes pmtPid streams
  refine ⟨?_, ?_, ?_, ?_, ?_⟩
  · intro pid profile
    rw [← hprofiles, Option.map_eq_some_iff]
  · intro pid
    rw [hlockstep, mem_captionEmitters, ← hprofiles]
    simp
  · intro pid e hemitter hsame
    exact kept_syncCaptionStreams pmtPid streams hemitter hsame
  · intro pid profile hprofile hnew
    exact freshEmitter_syncCaptionStreams hprofile hnew
  · exact syncCaptionStreams_again d pmtPid streams

/-- The PMT of a service with one caption stream, seen a second time. -/
theorem syncCaptionStreams_exact_oneStream :
    let d := dumperOfService1.syncCaptionStreams 0x100 oneCaptionStream
    let e := dumperOfService1.freshEmitter .kProfileA
    d.captionEmitters[(0x130 : PID)]? = some e ∧ Kept d 0x130 e (d.syncCaptionStreams 0x100 oneCaptionStream) := by
  intro d e
  have hclassified : oneCaptionStream[(0x130 : PID)]?.bind (classifyCaptionStream 0x100) = some .kProfileA := by decide
  have hbefore : PesLockstep dumperOfService1 := by
    intro pid
    simp [dumperOfService1, new, Demux.pids]
  have hpes : PesLockstep d := syncCaptionStreams_keeps (fun _ pid h => h.unregister pid)
    (fun _ pid profile h => h.register pid profile) hbefore 0x100 oneCaptionStream
  have hemitter : d.captionEmitters[(0x130 : PID)]? = some e := by
    apply (syncCaptionStreams_exact dumperOfService1 hbefore 0x100 oneCaptionStream).2.2.2.1 _ _ hclassified
    intro other hother
    simp [dumperOfService1, new] at hother
  exact ⟨hemitter, (syncCaptionStreams_exact d hpes 0x100 oneCaptionStream).2.2.1 _ _ hemitter hclassified⟩

end AribcapDump.CaptionDumper
