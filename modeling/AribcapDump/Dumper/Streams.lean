import AribcapDump.Dumper.CaptionDumper
import AribcapDump.Lib.MapFold

/-!
# Reconciling the caption emitters

What `SyncCaptionStreams` and `TeardownTargetService` leave in
`caption_emitters_`, PID by PID, and what they leave alone.

* `captionEmitters_syncCaptionStreams`: an emitter for exactly the classified
  streams, the one that was there where the profile is the same.
* `OnlyStreams`: nothing but `pes_demux_` and `caption_emitters_` changes.
-/

namespace AribcapDump.CaptionDumper

variable {δ : Type}

/-! ## Frame -/

/-- `d'` differs from `d` in `pes_demux_` and `caption_emitters_` at most. -/
structure OnlyStreams (d d' : CaptionDumper δ) : Prop where
  targetSid : d'.targetSid = d.targetSid
  options : d'.options = d.options
  reservedSectionPids : d'.reservedSectionPids = d.reservedSectionPids
  sectionDemux : d'.sectionDemux = d.sectionDemux
  currentPmtPid : d'.currentPmtPid = d.currentPmtPid
  programClock : d'.programClock = d.programClock
  eitEmitter : d'.eitEmitter = d.eitEmitter
  makeDecoderFactory : d'.makeDecoderFactory = d.makeDecoderFactory

theorem OnlyStreams.refl (d : CaptionDumper δ) : OnlyStreams d d :=
  ⟨rfl, rfl, rfl, rfl, rfl, rfl, rfl, rfl⟩

theorem OnlyStreams.register {d d' : CaptionDumper δ} (h : OnlyStreams d d') (pid : PID)
    (profile : Profile) : OnlyStreams d (d'.registerCaptionStream pid profile) := { h with }

theorem OnlyStreams.unregister {d d' : CaptionDumper δ} (h : OnlyStreams d d') (pid : PID) :
    OnlyStreams d (d'.unregisterCaptionStream pid) := { h with }

section
variable {P : CaptionDumper δ → Prop} (hunregister : ∀ d pid, P d → P (d.unregisterCaptionStream pid))
include hunregister

/-- What unregistering keeps, unregistering a list of PIDs keeps. -/
theorem foldl_unregister_keeps {d : CaptionDumper δ} (h : P d) (pids : List PID) :
    P (pids.foldl unregisterCaptionStream d) := by
  induction pids generalizing d with
  | nil => exact h
  | cons pid pids ih => exact ih (hunregister d pid h)

/-- The same where some PIDs are skipped. -/
theorem foldl_unregister_if_keeps {d : CaptionDumper δ} (h : P d) (keep : PID → Bool)
    (pids : List PID) :
    P (pids.foldl (fun d pid => if keep pid then d else d.unregisterCaptionStream pid) d) := by
  induction pids generalizing d with
  | nil => exact h
  | cons pid pids ih =>
    rw [List.foldl_cons]
    split
    · exact ih h
    · exact ih (hunregister d pid h)

variable (hregister : ∀ d pid profile, P d → P (d.registerCaptionStream pid profile))
include hregister

theorem syncStream_keeps {d : CaptionDumper δ} (h : P d) (pid : PID) (profile : Profile) :
    P (d.syncStream pid profile) := by
  unfold syncStream
  split
  · exact hregister d pid profile h
  · split
    · exact hregister _ pid profile (hunregister d pid h)
    · exact h

/-- What registering and unregistering keep, `SyncCaptionStreams` keeps. -/
theorem syncCaptionStreams_keeps {d : CaptionDumper δ} (h : P d) (pmtPid : PID)
    (streams : Std.ExtTreeMap PID Stream) : P (d.syncCaptionStreams pmtPid streams) := by
  unfold syncCaptionStreams
  exact MapFold.foldl_keeps (P := P) syncStream
    (fun _ pid profile h => syncStream_keeps hunregister hregister h pid profile)
    (foldl_unregister_if_keeps hunregister h _ _) _

end

theorem onlyStreams_syncCaptionStreams (d : CaptionDumper δ) (pmtPid : PID)
    (streams : Std.ExtTreeMap PID Stream) : OnlyStreams d (d.syncCaptionStreams pmtPid streams) :=
  syncCaptionStreams_keeps (P := OnlyStreams d) (fun _ pid h => h.unregister pid)
    (fun _ pid profile h => h.register pid profile) (.refl d) pmtPid streams

theorem onlyStreams_foldl_unregister (d : CaptionDumper δ) (pids : List PID) :
    OnlyStreams d (pids.foldl unregisterCaptionStream d) :=
  foldl_unregister_keeps (P := OnlyStreams d) (fun _ pid h => h.unregister pid) (.refl d) pids

/-! ## The emitters, PID by PID -/

theorem captionEmitters_register (d : CaptionDumper δ) (pid : PID) (profile : Profile) (a : PID) :
    (d.registerCaptionStream pid profile).captionEmitters[a]? =
      if pid = a ∧ pid ∉ d.captionEmitters then
        some (.new profile (d.makeDecoderFactory profile) d.options.emitEmptyCaptions)
      else d.captionEmitters[a]? := by
  simp [registerCaptionStream, Std.ExtTreeMap.getElem?_insertIfNew]

theorem captionEmitters_unregister (d : CaptionDumper δ) (pid a : PID) :
    (d.unregisterCaptionStream pid).captionEmitters[a]? = if pid = a then none else d.captionEmitters[a]? := by
  simp [unregisterCaptionStream, Std.ExtTreeMap.getElem?_erase]

theorem captionEmitters_foldl_unregister (d : CaptionDumper δ) (pids : List PID) (a : PID) :
    (pids.foldl unregisterCaptionStream d).captionEmitters[a]? = if a ∈ pids then none else d.captionEmitters[a]? := by
  induction pids generalizing d with
  | nil => simp
  | cons pid pids ih =>
    rw [List.foldl_cons, ih, captionEmitters_unregister]
    simp only [List.mem_cons]
    by_cases hmem : a ∈ pids
    · simp [hmem]
    · by_cases heq : pid = a
      · simp [heq]
      · simp [hmem, heq, Ne.symm heq]

theorem mem_captionEmitters {d : CaptionDumper δ} {a : PID} :
    a ∈ d.captionEmitters ↔ ∃ e, d.captionEmitters[a]? = some e := by
  rw [Std.ExtTreeMap.mem_iff_isSome_getElem?, Option.isSome_iff_exists]

/-- Unregistering all leaves no emitter. -/
theorem captionEmitters_foldl_unregister_keys (d : CaptionDumper δ) :
    (d.captionEmitters.keys.foldl unregisterCaptionStream d).captionEmitters = ∅ := by
  rw [Std.ExtTreeMap.eq_empty_iff_forall_not_mem]
  intro a ha
  obtain ⟨e, he⟩ := mem_captionEmitters.mp ha
  rw [captionEmitters_foldl_unregister] at he
  split at he
  · cases he
  · next hkeys => exact hkeys (Std.ExtTreeMap.mem_keys.mpr (mem_captionEmitters.mpr ⟨e, he⟩))

/-- A freshly constructed emitter for the profile. -/
def freshEmitter (d : CaptionDumper δ) (profile : Profile) : CaptionRecordEmitter δ :=
  .new profile (d.makeDecoderFactory profile) d.options.emitEmptyCaptions

/-- The emitter of a stream classified with `profile`, where `current` was there: the same where the profile is,
else a fresh one. -/
def reconciled (d : CaptionDumper δ) (current : Option (CaptionRecordEmitter δ)) (profile : Profile) :
    CaptionRecordEmitter δ :=
  match current with
  | some current => if current.profile = profile then current else d.freshEmitter profile
  | none => d.freshEmitter profile

theorem captionEmitters_syncStream (d : CaptionDumper δ) (pid : PID) (profile : Profile) (a : PID) :
    (d.syncStream pid profile).captionEmitters[a]? =
      if pid = a then some (d.reconciled d.captionEmitters[a]? profile) else d.captionEmitters[a]? := by
  unfold syncStream
  cases hcurrent : d.captionEmitters[pid]? with
  | none =>
    have hnot : pid ∉ d.captionEmitters := by
      intro hmem
      obtain ⟨e, he⟩ := mem_captionEmitters.mp hmem
      rw [hcurrent] at he
      cases he
    simp only [captionEmitters_register, hnot, not_false_eq_true, and_true]
    by_cases heq : pid = a
    · subst heq
      simp [hcurrent, reconciled, freshEmitter]
    · simp [heq]
  | some current =>
    by_cases hprofile : current.profile = profile
    · by_cases heq : pid = a
      · subst heq
        simp [hcurrent, reconciled, hprofile]
      · simp [hprofile, heq]
    · have hnot : pid ∉ (d.unregisterCaptionStream pid).captionEmitters := by
        intro hmem
        obtain ⟨e, he⟩ := mem_captionEmitters.mp hmem
        simp [captionEmitters_unregister] at he
      simp only [ne_eq, hprofile, not_false_eq_true, if_true, captionEmitters_register, hnot, and_true,
        captionEmitters_unregister]
      by_cases heq : pid = a
      · subst heq
        simp [hcurrent, reconciled, hprofile, freshEmitter, unregisterCaptionStream]
      · simp [heq]

/-- Both ways of building an emitter read the same two members. -/
theorem reconciled_of_onlyStreams {d d' : CaptionDumper δ} (h : OnlyStreams d d')
    (current : Option (CaptionRecordEmitter δ)) (profile : Profile) :
    d'.reconciled current profile = d.reconciled current profile := by
  have hfresh : d'.freshEmitter profile = d.freshEmitter profile := by
    unfold freshEmitter
    rw [h.options, h.makeDecoderFactory]
  unfold reconciled
  rw [hfresh]

/-- The first loop: it unregisters what `keep` refuses. -/
theorem captionEmitters_foldl_unregister_if (keep : PID → Bool) (d : CaptionDumper δ) (pids : List PID)
    (a : PID) :
    (pids.foldl (fun d pid => if keep pid then d else d.unregisterCaptionStream pid) d).captionEmitters[a]? =
      if a ∈ pids ∧ keep a = false then none else d.captionEmitters[a]? := by
  induction pids generalizing d with
  | nil => simp
  | cons pid pids ih =>
    rw [List.foldl_cons, ih]
    simp only [List.mem_cons]
    by_cases heq : pid = a
    · subst heq
      cases hkeep : keep pid
      · simp [captionEmitters_unregister]
      · simp
    · have hne : a ≠ pid := Ne.symm heq
      cases keep pid
      · simp [captionEmitters_unregister, heq, hne]
      · simp [hne]

/-- The loop over the streams of the PMT: the caption streams with their profiles. -/
theorem getElem?_desiredStreams (pmtPid : PID) (streams : Std.ExtTreeMap PID Stream) (a : PID) :
    (desiredStreams pmtPid streams)[a]? = streams[a]?.bind (classifyCaptionStream pmtPid) := by
  have hown : ∀ (desired : Std.ExtTreeMap PID Profile) (pid : PID) (stream : Stream), True →
      (desireStream pmtPid desired pid stream)[pid]? = desired[pid]?.or (classifyCaptionStream pmtPid stream) := by
    intro desired pid stream _
    unfold desireStream
    cases classifyCaptionStream pmtPid stream with
    | none => simp
    | some profile =>
      simp only [Std.ExtTreeMap.getElem?_insertIfNew, Std.ExtTreeMap.mem_iff_isSome_getElem?]
      cases desired[pid]? <;> simp
  have hother : ∀ (desired : Std.ExtTreeMap PID Profile) (pid : PID) (stream : Stream) (a : PID), True → pid ≠ a →
      (desireStream pmtPid desired pid stream)[a]? = desired[a]? := by
    intro desired pid stream a _ hne
    unfold desireStream
    cases classifyCaptionStream pmtPid stream with
    | none => rfl
    | some profile => simp [Std.ExtTreeMap.getElem?_insertIfNew, hne]
  unfold desiredStreams
  rw [MapFold.obs_foldl (desireStream pmtPid) (fun desired a => desired[a]?)
    (fun before _ stream => before.or (classifyCaptionStream pmtPid stream)) (fun _ _ _ h => h) hown hother trivial]
  cases streams[a]? <;> simp

/-- The last loop: it reconciles the desired streams and leaves the others. -/
theorem captionEmitters_foldl_syncStream (d : CaptionDumper δ) (desired : Std.ExtTreeMap PID Profile)
    (a : PID) : (desired.foldl syncStream d).captionEmitters[a]? =
      desired[a]?.elim d.captionEmitters[a]? fun profile => some (d.reconciled d.captionEmitters[a]? profile) := by
  refine MapFold.obs_foldl (P := OnlyStreams d) syncStream (fun d a => d.captionEmitters[a]?)
    (fun current _ profile => some (d.reconciled current profile)) ?_ ?_ ?_ (.refl d) desired a
  · intro d' pid profile h
    exact syncStream_keeps (fun _ pid h => h.unregister pid) (fun _ pid profile h => h.register pid profile) h pid profile
  · intro d' pid profile h
    rw [captionEmitters_syncStream, if_pos rfl, reconciled_of_onlyStreams h]
  · intro d' pid profile a _ hne
    rw [captionEmitters_syncStream, if_neg hne]

/-- **`SyncCaptionStreams`, PID by PID.** -/
theorem captionEmitters_syncCaptionStreams (d : CaptionDumper δ) (pmtPid : PID)
    (streams : Std.ExtTreeMap PID Stream) (a : PID) :
    (d.syncCaptionStreams pmtPid streams).captionEmitters[a]? =
      (streams[a]?.bind (classifyCaptionStream pmtPid)).map (d.reconciled d.captionEmitters[a]?) := by
  rw [← getElem?_desiredStreams]
  unfold syncCaptionStreams
  simp only
  generalize desiredStreams pmtPid streams = desired
  have hframe : OnlyStreams d (d.captionEmitters.keys.foldl
      (fun d pid => if desired.contains pid then d else d.unregisterCaptionStream pid) d) :=
    foldl_unregister_if_keeps (P := OnlyStreams d) (fun _ pid h => h.unregister pid) (.refl d) _ _
  rw [captionEmitters_foldl_syncStream, captionEmitters_foldl_unregister_if,
    Std.ExtTreeMap.contains_eq_isSome_getElem?]
  cases hprofile : desired[a]? with
  | some profile =>
    simp only [Option.map_some, Option.elim_some, reconciled_of_onlyStreams hframe]
    simp
  | none =>
    by_cases hmem : a ∈ d.captionEmitters
    · simp [Std.ExtTreeMap.mem_keys, hmem]
    · simp [Std.ExtTreeMap.mem_keys, hmem]

end AribcapDump.CaptionDumper
