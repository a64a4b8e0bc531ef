import AribcapDump.Framer.Chunks
import Mathlib.Data.List.Induction

/-!
# After a failed initial sync

`HasInitialSyncFailed` is documented as definitive: true once initial sync has
failed, false after sync has succeeded.  `Feed` never looks at it.  When the
search leaves its bound with no candidate buffered, every later `Feed` fails
again; when it leaves it with a candidate past the bound in the buffer, a later
`Feed` can complete that candidate's probe, deliver packets and go on in `synced`
mode with the flag still set.

    FailureIsFinal onPacket s chunks ↔ StaysRefuted onPacket s chunks    (failureIsFinal_iff)
-/

namespace AribcapDump

/-- The bytes fed rule out what the buffer holds: it is empty, or some packet boundary of the probe
window is not a sync byte. -/
def ProbeRefuted (f : PacketFramer) (data : List UInt8) : Prop :=
  f.pending = [] ∨
    pendingSyncBytesAreValid (f.pending ++ data.take (kSyncProbeSize - f.pending.length)) = false

section
variable {σ : Type} (onPacket : PacketHandler σ)

/-- `Feed` calls one after the other, also after one returned false. -/
def feedAll :
    PacketFramer → List (List UInt8) → Deliveries σ → Except Fault (PacketFramer × Deliveries σ)
  | f, [], w => .ok (f, w)
  | f, data :: datas, w =>
    match feed onPacket f data w with
    | .error e => .error e
    | .ok out => feedAll out.framer datas out.world

/-- What the documentation of `HasInitialSyncFailed` says of the calls `chunks` on a fresh framer: once
it is true every later non-empty `Feed` delivers nothing and returns false, and it is never true with a
packet delivered or sync established. -/
def FailureIsFinal (s : σ) (chunks : List (List UInt8)) : Prop :=
  (∀ past data rest, chunks = past ++ data :: rest → ∀ f w, feedAll onPacket {} past ⟨s, []⟩ = .ok (f, w) →
    f.hasInitialSyncFailed = true → data ≠ [] →
    ∃ out, feed onPacket f data w = .ok out ∧ out.ok = false ∧ out.world.packets = w.packets) ∧
  (∀ past, past <+: chunks → ∃ f w, feedAll onPacket {} past ⟨s, []⟩ = .ok (f, w) ∧
    (f.hasInitialSyncFailed = true → w.packets = [] ∧ f.mode = .initialSync))

/-- Every non-empty `Feed` made after the failure finds no candidate it does not rule out. -/
def StaysRefuted (s : σ) (chunks : List (List UInt8)) : Prop :=
  ∀ past data rest, chunks = past ++ data :: rest → ∀ f w, feedAll onPacket {} past ⟨s, []⟩ = .ok (f, w) →
    f.hasInitialSyncFailed = true → data ≠ [] → ProbeRefuted f data

variable {onPacket}

theorem feedAll_concat (f : PacketFramer) (past : List (List UInt8)) (data : List UInt8)
    (w : Deliveries σ) {g : PacketFramer} {v : Deliveries σ} {out : FeedOutcome σ}
    (hpast : feedAll onPacket f past w = .ok (g, v)) (hfeed : feed onPacket g data v = .ok out) :
    feedAll onPacket f (past ++ [data]) w = .ok (out.framer, out.world) := by
  induction past generalizing f w with
  | nil =>
    rw [feedAll] at hpast
    cases hpast
    rw [List.nil_append, feedAll, hfeed]
    rfl
  | cons d past ih =>
    rw [feedAll] at hpast
    rw [List.cons_append, feedAll]
    cases hd : feed onPacket f d w with
    | error e => rw [hd] at hpast; cases hpast
    | ok o =>
      rw [hd] at hpast
      exact ih o.framer o.world hpast

/-! ## Feeding a framer whose search has left its bound -/

theorem feed_of_turn {f : PacketFramer} {data : List UInt8} {w : Deliveries σ} {st : Step σ}
    (hd : data ≠ []) (hst : feedTurn onPacket f data w = .ok st) :
    feed onPacket f data w =
      match st.result with
      | .stop => .ok ⟨st.framer, st.world, false⟩
      | .needMoreData => .ok ⟨st.framer, st.world, true⟩
      | .continue => feedLoop onPacket (2 * data.length) st.framer st.rest st.world := by
  obtain ⟨b, rest, rfl⟩ := List.exists_cons_of_ne_nil hd
  cases hres : st.result <;> simp [feed, feedLoop, hst, hres]

theorem PacketFramer.Refuted.pending_lt {f : PacketFramer} (hf : f.Refuted) :
    f.pending.length < kSyncProbeSize := by
  have := hf.size
  rwa [hf.mode_eq] at this

/-- A candidate ruled out: the search fails again. -/
theorem feedTurn_of_probeRefuted {f : PacketFramer} (hf : f.Refuted) {data : List UInt8} (hd : data ≠ [])
    (h : ProbeRefuted f data) (w : Deliveries σ) :
    ∃ f' rest, feedTurn onPacket f data w = .ok ⟨f', rest, w, .stop⟩ ∧ f'.Refuted := by
  have hturn : feedTurn onPacket f data w = feedSeekingSync onPacket f data w true := by
    rw [feedTurn, hf.mode_eq]
  rw [hturn]
  by_cases hp : f.pending = []
  · have hb : PKT_SIZE ≤ f.initialOffset + data.findIdx (· == SYNC_BYTE) :=
      Nat.le_trans hf.offset (Nat.le_add_right _ _)
    rw [feedSeekingSync_of_empty onPacket w true hp, if_pos ⟨rfl, hb⟩]
    exact ⟨_, _, rfl, skip_refuted hf.toInv hf.mode_eq hb⟩
  · have hv : pendingSyncBytesAreValid (f.window data) = false := h.resolve_left hp
    have hb : PKT_SIZE ≤ f.initialOffset + nextSync (f.window data) :=
      Nat.le_trans hf.offset (Nat.le_add_right _ _)
    rw [feedSeekingSync_of_pending onPacket w true hp, fillProbe_invalid onPacket w true hd hf.pending_lt hv,
      afterFalseCandidate, if_pos ⟨rfl, hb⟩]
    exact ⟨_, _, rfl, dropCandidate_refuted hf.mode_eq hd hf.pending_lt hb⟩

/-- The candidate past the bound still stands: the turn fills the probe window. -/
theorem feedTurn_of_not_probeRefuted {f : PacketFramer} (hf : f.Refuted) {data : List UInt8}
    (h : ¬ ProbeRefuted f data) (w : Deliveries σ) :
    f.pending ≠ [] ∧ pendingSyncBytesAreValid (f.window data) = true ∧
      feedTurn onPacket f data w = fillProbe onPacket f data w true := by
  obtain ⟨hp, hv⟩ := not_or.mp h
  refine ⟨hp, Bool.of_not_eq_false hv, ?_⟩
  rw [feedTurn, hf.mode_eq]
  exact feedSeekingSync_of_pending onPacket w true hp

/-- The call fails again and delivers nothing. -/
theorem feed_of_probeRefuted {f : PacketFramer} (hf : f.Refuted) {data : List UInt8} (hd : data ≠ [])
    (h : ProbeRefuted f data) (w : Deliveries σ) :
    ∃ f', feed onPacket f data w = .ok ⟨f', w, false⟩ ∧ f'.Refuted := by
  obtain ⟨f', rest, hst, hf'⟩ := feedTurn_of_probeRefuted hf hd h w
  exact ⟨f', feed_of_turn hd hst, hf'⟩

/-- A candidate not ruled out: the call returns true or delivers its four packets. -/
theorem probeRefuted_of_feed (hacc : ∀ s p, (onPacket s p).2 = true) {f : PacketFramer} (hf : f.Refuted)
    {data : List UInt8} (hd : data ≠ []) {w : Deliveries σ} {out : FeedOutcome σ}
    (hfeed : feed onPacket f data w = .ok out) (hok : out.ok = false) (hnone : out.world.packets = w.packets) :
    ProbeRefuted f data := by
  by_contra hstands
  obtain ⟨-, hv, hturn⟩ := feedTurn_of_not_probeRefuted hf hstands w
  by_cases hlen : (f.window data).length < kSyncProbeSize
  · rw [feed_of_turn hd (hturn.trans (fillProbe_short onPacket w true hf.pending_lt hv hlen))] at hfeed
    cases hfeed
    cases hok
  · have hlen' := Nat.not_lt.mp hlen
    obtain ⟨hacc4, hpackets⟩ := deliver_of_forall hacc w (probePackets (f.window data))
    have hst := hturn.trans (fillProbe_full onPacket w true hf.pending_lt hv hlen')
    rw [if_pos hacc4] at hst
    rw [feed_of_turn hd hst] at hfeed
    have hturns : turnsLeft { f with pending := [], mode := .synced } (f.beyond data) ≤ 2 * data.length := by
      have := beyond_length_lt f hd hf.pending_lt
      simp only [turnsLeft, if_true]
      omega
    have hw := (spec_of_ok (feedLoop_spec onPacket (2 * data.length)
      { f with pending := [], mode := .synced } (f.beyond data)
      (deliver onPacket w (probePackets (f.window data))).1 (good_of_synced_empty rfl rfl) hturns) hfeed).world_eq
    rw [hw, (deliver_of_forall hacc _ _).2, hpackets, List.append_assoc, List.append_right_eq_self,
      List.append_eq_nil_iff] at hnone
    exact probePackets_ne_nil hlen' hnone.1

/-! ## Runs -/

/-- A framer that has not failed, or one that has failed and delivered nothing. -/
def SoundFailure (f : PacketFramer) (w : Deliveries σ) : Prop :=
  (f.Good ∧ f.initialSyncFailed = false ∧ (f.mode = .initialSync → w.packets = [])) ∨
    (f.Refuted ∧ w.packets = [])

theorem SoundFailure.refuted {f : PacketFramer} {w : Deliveries σ} (h : SoundFailure f w)
    (hflag : f.initialSyncFailed = true) : f.Refuted ∧ w.packets = [] := by
  rcases h with ⟨-, hnf, -⟩ | h
  · rw [hflag] at hnf
    cases hnf
  · exact h

/-- One call keeps it, unless it meets a candidate past the bound that still stands. -/
theorem SoundFailure.feed (hacc : ∀ s p, (onPacket s p).2 = true) {f : PacketFramer} {w : Deliveries σ}
    (h : SoundFailure f w) {data : List UInt8}
    (hcond : f.initialSyncFailed = true → data ≠ [] → ProbeRefuted f data) :
    ∃ out, AribcapDump.feed onPacket f data w = .ok out ∧ SoundFailure out.framer out.world ∧
      (f.initialSyncFailed = true → data ≠ [] → out.ok = false ∧ out.world.packets = w.packets) := by
  rcases h with ⟨hgood, hnf, hnone⟩ | ⟨href, hnone⟩
  · obtain ⟨out, hout, hspec⟩ := feed_spec onPacket hgood data w
    refine ⟨out, hout, ?_, fun h => by rw [hnf] at h; cases h⟩
    cases hspec with
    | accepted f' hgood' hflag _ _ hm =>
      refine .inl ⟨hgood', hflag.trans hnf, fun hmode => ?_⟩
      obtain ⟨hmode, hnil⟩ := hm.mp hmode
      rw [hnil, deliver_nil]
      exact hnone hmode
    | refused f' _ _ hrej =>
      rw [(deliver_of_forall hacc _ _).1] at hrej
      cases hrej
    | noSync f' href hm _ => exact .inr ⟨href, hnone hm⟩
  · by_cases hd : data = []
    · subst hd
      exact ⟨⟨f, w, true⟩, by rw [AribcapDump.feed, List.length_nil, if_pos rfl], .inr ⟨href, hnone⟩,
        fun _ h => absurd rfl h⟩
    · obtain ⟨f', hfeed, href'⟩ := feed_of_probeRefuted href hd (hcond href.failed hd) w
      exact ⟨_, hfeed, .inr ⟨href', hnone⟩, fun _ _ => ⟨rfl, rfl⟩⟩

/-- The whole run keeps it. -/
theorem soundFailure_feedAll (hacc : ∀ s p, (onPacket s p).2 = true) (s : σ)
    (chunks : List (List UInt8)) (hcond : ∀ past data rest, chunks = past ++ data :: rest → ∀ f w,
      feedAll onPacket {} past ⟨s, []⟩ = .ok (f, w) → SoundFailure f w →
      f.initialSyncFailed = true → data ≠ [] → ProbeRefuted f data) :
    ∀ past, past <+: chunks →
      ∃ f w, feedAll onPacket {} past ⟨s, []⟩ = .ok (f, w) ∧ SoundFailure f w := by
  intro past
  induction past using List.reverseRecOn with
  | nil => exact fun _ => ⟨{}, ⟨s, []⟩, rfl, .inl ⟨good_fresh, rfl, fun _ => rfl⟩⟩
  | append_singleton past data ih =>
    rintro ⟨rest, hsplit⟩
    rw [List.append_assoc, List.singleton_append] at hsplit
    obtain ⟨f, w, hrun, hsound⟩ := ih ⟨data :: rest, hsplit⟩
    obtain ⟨out, hout, hsound', -⟩ :=
      hsound.feed hacc (hcond past data rest hsplit.symm f w hrun hsound)
    exact ⟨out.framer, out.world, feedAll_concat _ _ _ _ hrun hout, hsound'⟩

/-! ## Top theorem -/

/-- **A failed initial sync is final exactly when every later call rules out what is buffered.** -/
theorem failureIsFinal_iff (hacc : ∀ s p, (onPacket s p).2 = true) (s : σ)
    (chunks : List (List UInt8)) :
    FailureIsFinal onPacket s chunks ↔ StaysRefuted onPacket s chunks := by
  constructor
  · rintro ⟨hlater, -⟩
    -- along the run each call after the failure rules its candidate out, or it would return true or deliver
    have hcond : ∀ past data rest, chunks = past ++ data :: rest → ∀ f w,
        feedAll onPacket {} past ⟨s, []⟩ = .ok (f, w) → SoundFailure f w →
        f.initialSyncFailed = true → data ≠ [] → ProbeRefuted f data := by
      intro past data rest hsplit f w hrun hsound hflag hd
      obtain ⟨out, hout, hok, hnone⟩ := hlater past data rest hsplit f w hrun hflag hd
      exact probeRefuted_of_feed hacc (hsound.refuted hflag).1 hd hout hok hnone
    intro past data rest hsplit f w hrun hflag hd
    obtain ⟨f', w', hrun', hsound⟩ := soundFailure_feedAll hacc s chunks hcond past ⟨data :: rest, hsplit.symm⟩
    rw [hrun] at hrun'
    cases hrun'
    exact hcond past data rest hsplit f w hrun hsound hflag hd
  · intro hstays
    have hsound := soundFailure_feedAll hacc s chunks
      (fun past data rest hsplit f w hrun _ => hstays past data rest hsplit f w hrun)
    constructor
    · intro past data rest hsplit f w hrun hflag hd
      obtain ⟨f', w', hrun', hs⟩ := hsound past ⟨data :: rest, hsplit.symm⟩
      rw [hrun] at hrun'
      cases hrun'
      obtain ⟨out, hout, -, hfail⟩ := hs.feed hacc (hstays past data rest hsplit f w hrun)
      exact ⟨out, hout, hfail hflag hd⟩
    · intro past hpast
      obtain ⟨f, w, hrun, hs⟩ := hsound past hpast
      refine ⟨f, w, hrun, fun hflag => ?_⟩
      obtain ⟨href, hnone⟩ := hs.refuted hflag
      exact ⟨hnone, href.mode_eq⟩

end

/-- A handler that always accepts. -/
def acceptAll : PacketHandler Unit := fun _ _ => ((), true)

/-- No sync byte in 200 bytes, and one more byte. -/
theorem failureIsFinal_iff_zeros :
    FailureIsFinal acceptAll () [List.replicate 200 0, [SYNC_BYTE]] ↔
      StaysRefuted acceptAll () [List.replicate 200 0, [SYNC_BYTE]] :=
  failureIsFinal_iff (fun _ _ => rfl) () _

/-- A false candidate at offset 0 and the next sync byte at offset 189. -/
def lateStart : List UInt8 := SYNC_BYTE :: (List.replicate 188 0 ++ [SYNC_BYTE])

/-- The rest of four packets whose first sync byte has been read. -/
def restOfProbe : List UInt8 :=
  List.replicate 187 0 ++ (List.replicate 3 (SYNC_BYTE :: List.replicate 187 0)).flatten

/-- After `lateStart` the initial sync has failed; the next call delivers four packets and goes on in
`synced` mode with the flag still set. -/
theorem failure_not_final :
    (feedAll acceptAll {} [lateStart] ⟨(), []⟩).toOption.map
        (fun r => (r.1.hasInitialSyncFailed, r.2.packets.length)) = some (true, 0) ∧
    (feedAll acceptAll {} [lateStart, restOfProbe] ⟨(), []⟩).toOption.map
        (fun r => (r.1.hasInitialSyncFailed, r.2.packets.length, r.1.mode)) = some (true, 4, .synced) ∧
    ¬ FailureIsFinal acceptAll () [lateStart, restOfProbe] := by
  have hrun : (feedAll acceptAll {} [lateStart, restOfProbe] ⟨(), []⟩).toOption.map
      (fun r => (r.1.hasInitialSyncFailed, r.2.packets.length, r.1.mode)) = some (true, 4, .synced) := by
    decide +kernel
  refine ⟨by decide +kernel, hrun, fun hfinal => ?_⟩
  obtain ⟨f, w, hall, hflag⟩ := hfinal.2 _ (List.prefix_refl _)
  rw [hall] at hrun
  simp only [Except.toOption, Option.map_some, Option.some.injEq, Prod.mk.injEq] at hrun
  have hnone := (hflag hrun.1).1
  rw [hnone] at hrun
  simp at hrun

end AribcapDump
