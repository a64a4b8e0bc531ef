import AribcapDump.Framer.Failure
import AribcapDump.Framer.Search
import AribcapDump.Framer.Status

/-!
# The buffer of the framer

`pending_` serves two modes with different capacities and is changed at eight
places, and a turn in `synced` mode may read nothing.  At every turn of every
`Feed`, also after one returned false:

    pending_size_ <= 751, 187 in synced mode;  pending_[0] is a sync byte
    initial_offset_ is below 188, and the stream offset of what comes next

* `AtLoop.turn`: one turn from such a state faults nowhere and leaves one, with fewer turns to go.
* `feed_total`, `feedAll_total`: so the loop ends.
* `buffer_invariant`: the invariant at every turn.
-/

namespace AribcapDump

section
variable {σ : Type} (onPacket : PacketHandler σ)

/-- The framer, the bytes not read yet and the handler's side where a turn of the loop begins, in the `Feed` of `data`
made after the calls `past`. -/
inductive AtTurn (s : σ) (past : List (List UInt8)) (data : List UInt8) :
    PacketFramer → List UInt8 → Deliveries σ → Prop
  | first {f : PacketFramer} {w : Deliveries σ} :
      feedAll onPacket {} past ⟨s, []⟩ = .ok (f, w) → AtTurn s past data f data w
  | next {f : PacketFramer} {rest : List UInt8} {w : Deliveries σ} {st : Step σ} :
      AtTurn s past data f rest w → rest ≠ [] → feedTurn onPacket f rest w = .ok st → st.result = .continue →
      AtTurn s past data st.framer st.rest st.world

/-- What is said of a turn: `b` is the stream, `rest` its unread end. -/
structure BufferInvariant (s : σ) (b : List UInt8) (f : PacketFramer) (rest : List UInt8) (w : Deliveries σ) :
    Prop where
  size_searching : f.mode ≠ .synced → f.pending.length ≤ 751
  size_synced : f.mode = .synced → f.pending.length ≤ 187
  head : f.pending ≠ [] → f.pending.head? = some SYNC_BYTE
  offset_lt : f.mode = .initialSync → f.initialSyncFailed = false → f.initialOffset < PKT_SIZE
  offset_eq : f.mode = .initialSync → f.initialSyncFailed = false → false ∉ handlerAnswers onPacket s w →
    f.initialOffset ≤ b.length ∧ f.pending ++ rest = b.drop f.initialOffset
  /-- The copy into the buffer, of what is `available`: it takes no more, and what it takes fits. -/
  copy_fits : ∀ available, min (f.mode.capacity - f.pending.length) available ≤ available ∧
    f.pending.length + min (f.mode.capacity - f.pending.length) available ≤ kSyncProbeSize
  /-- No fault in this turn. -/
  turn : rest ≠ [] → ∃ st, feedTurn onPacket f rest w = .ok st

/-! ## One turn -/

variable {onPacket} {s : σ} {b : List UInt8} {f : PacketFramer} {rest : List UInt8} {w : Deliveries σ}

/-- What holds at a turn: `b` is the stream read or being read, `rest` its unread end. -/
structure AtLoop (onPacket : PacketHandler σ) (s : σ) (b : List UInt8) (f : PacketFramer) (rest : List UInt8)
    (w : Deliveries σ) : Prop where
  sound : f.Good ∨ f.Refuted
  state_eq : w.state = Machine.run onPacket s w.packets
  offset : f.mode = .initialSync → f.initialSyncFailed = false → false ∉ handlerAnswers onPacket s w →
    f.initialOffset ≤ b.length ∧ f.pending ++ rest = b.drop f.initialOffset

theorem AtLoop.inv (h : AtLoop onPacket s b f rest w) : f.Inv := by
  rcases h.sound with hgood | hrefuted
  · exact hgood.toInv
  · exact hrefuted.toInv

/-- A search that has failed says nothing of its offset any more. -/
theorem AtLoop.of_failed (hsound : f.Good ∨ f.Refuted) (hw : w.state = Machine.run onPacket s w.packets)
    (hfailed : f.initialSyncFailed = true) : AtLoop onPacket s b f rest w where
  sound := hsound
  state_eq := hw
  offset := fun _ hunfailed => by rw [hfailed] at hunfailed; cases hunfailed

/-- The initial search at a turn. -/
theorem AtLoop.searching (h : AtLoop onPacket s b f rest w) (hr : rest ≠ []) (hm : f.mode = .initialSync)
    (hunfailed : f.initialSyncFailed = false) (hnever : false ∉ handlerAnswers onPacket s w) :
    Searching b f.initialOffset f rest := by
  obtain ⟨hinside, hstream⟩ := h.offset hm hunfailed hnever
  exact ⟨hm, hstream, hinside, Nat.le_refl _, fun _ p hstart hpast => absurd hpast (Nat.not_lt.mpr hstart),
    fun hnil => absurd hnil hr⟩

/-- What a turn leaves: the bytes of the chunk are given up unless the loop goes on. -/
def Step.unread (st : Step σ) : List UInt8 := if st.result = .continue then st.rest else []

/-- What a turn must leave. -/
structure TurnKeeps (onPacket : PacketHandler σ) (s : σ) (b : List UInt8) (f : PacketFramer) (rest : List UInt8)
    (st : Step σ) : Prop where
  atLoop : AtLoop onPacket s b st.framer st.unread st.world
  turns : st.result = .continue → turnsLeft st.framer st.rest < turnsLeft f rest

/-- A turn that reads no more: nothing of the chunk is left to be read. -/
theorem TurnKeeps.of_end {f' : PacketFramer} {rest' : List UInt8} {w' : Deliveries σ} {result : FeedResult}
    (hend : result ≠ .continue) (h : AtLoop onPacket s b f' [] w') :
    TurnKeeps onPacket s b f rest ⟨f', rest', w', result⟩ where
  atLoop := by rwa [Step.unread, if_neg hend]
  turns := fun hcontinue => absurd hcontinue hend

/-- A turn that leaves the framer searching. -/
theorem AtLoop.searchTurn (h : AtLoop onPacket s b f rest w) (hgood : f.Good) (hr : rest ≠ [])
    (hm : f.mode = .initialSync) (hunfailed : f.initialSyncFailed = false)
    (hnever : false ∉ handlerAnswers onPacket s w) {st : Step σ} (hst : feedTurn onPacket f rest w = .ok st) :
    SearchTurn b f.initialOffset st :=
  spec_of_ok (feedTurn_search onPacket w (h.searching hr hm hunfailed hnever) hgood hr hunfailed) hst

theorem AtLoop.turn_of_good (h : AtLoop onPacket s b f rest w) (hgood : f.Good) (hr : rest ≠ []) :
    ∃ st, feedTurn onPacket f rest w = .ok st ∧ TurnKeeps onPacket s b f rest st := by
  obtain ⟨st, hst, hspec⟩ := feedTurn_spec onPacket w hgood hr
  refine ⟨st, hst, ?_⟩
  cases hspec with
  | goOn packets f' rest' hgood' hflag ht hacc hfr hm =>
    refine ⟨⟨.inl hgood', state_deliver_of_run onPacket h.state_eq packets, fun hmode hunfailed hnever => ?_⟩, fun _ => ht⟩
    obtain ⟨hmode', rfl⟩ := hm.mp hmode
    rw [deliver_nil] at hnever hst
    have hturn := h.searchTurn hgood hr hmode' (hflag.symm.trans hunfailed) hnever hst
    have hafter := hturn.searching hmode fun hstop => (by cases hstop)
    exact ⟨hafter.inside, hafter.stream⟩
  | needMore packets f' rest' hgood' hflag hacc hfr hm =>
    apply TurnKeeps.of_end (by decide)
    refine ⟨.inl hgood', state_deliver_of_run onPacket h.state_eq packets, fun hmode hunfailed hnever => ?_⟩
    obtain ⟨hmode', rfl⟩ := hm.mp hmode
    rw [deliver_nil] at hnever hst
    have hturn := h.searchTurn hgood hr hmode' (hflag.symm.trans hunfailed) hnever hst
    have hafter := hturn.searching hmode fun hstop => (by cases hstop)
    have hread : rest' = [] := hturn.needMore hmode rfl
    subst hread
    exact ⟨hafter.inside, hafter.stream⟩
  | refused packets more f' rest' hgood' hflag href hfr =>
    apply TurnKeeps.of_end (by decide)
    refine ⟨.inl hgood', state_deliver_of_run onPacket h.state_eq packets, fun _ _ hnever => ?_⟩
    exact absurd (refusal_of_deliver onPacket h.state_eq href) hnever
  | noSync f' rest' hrefuted hm hfr =>
    exact .of_end (by decide) (.of_failed (.inr hrefuted) h.state_eq hrefuted.failed)

/-- A turn after the search has failed: it fails again, keeps the candidate, or delivers its packets. -/
theorem AtLoop.turn_of_refuted (h : AtLoop onPacket s b f rest w) (hf : f.Refuted) (hr : rest ≠ []) :
    ∃ st, feedTurn onPacket f rest w = .ok st ∧ TurnKeeps onPacket s b f rest st := by
  by_cases hprobe : ProbeRefuted f rest
  · obtain ⟨f', rest', hst, hf'⟩ := feedTurn_of_probeRefuted hf hr hprobe w
    exact ⟨_, hst, .of_end (by decide) (.of_failed (.inr hf') h.state_eq hf'.failed)⟩
  obtain ⟨hp, hv, hturn⟩ := feedTurn_of_not_probeRefuted hf hprobe w
  rw [hturn]
  by_cases hlen : (f.window rest).length < kSyncProbeSize
  · rw [fillProbe_short onPacket w true hf.pending_lt hv hlen]
    have hkept : ({ f with pending := f.window rest } : PacketFramer).Refuted := by
      refine { size := ?_, head := fun _ => ?_, mode_eq := hf.mode_eq, failed := hf.failed, offset := hf.offset }
      · simp only [hf.mode_eq]
        exact hlen
      · show (f.window rest).head? = some SYNC_BYTE
        rw [PacketFramer.window, List.head?_append, hf.head hp]
        rfl
    exact ⟨_, rfl, .of_end (by decide) (.of_failed (.inr hkept) h.state_eq hf.failed)⟩
  · rw [fillProbe_full onPacket w true hf.pending_lt hv (Nat.not_lt.mp hlen)]
    refine ⟨_, rfl, ?_⟩
    split
    · refine ⟨.of_failed (.inl (good_of_synced_empty rfl rfl)) (state_deliver_of_run onPacket h.state_eq _) hf.failed,
        fun _ => ?_⟩
      have hlt := beyond_length_lt f hr hf.pending_lt
      simp only [turnsLeft, if_true]
      omega
    · have hempty : ({ f with pending := [] } : PacketFramer).Refuted := by
        refine { size := ?_, head := fun hne => absurd rfl hne, mode_eq := hf.mode_eq, failed := hf.failed,
                 offset := hf.offset }
        simp only [hf.mode_eq]
        exact Nat.succ_pos _
      exact .of_end (by decide) (.of_failed (.inr hempty) (state_deliver_of_run onPacket h.state_eq _) hf.failed)

/-- **One turn.** -/
theorem AtLoop.turn (h : AtLoop onPacket s b f rest w) (hr : rest ≠ []) :
    ∃ st, feedTurn onPacket f rest w = .ok st ∧ TurnKeeps onPacket s b f rest st := by
  rcases h.sound with hgood | hrefuted
  · exact h.turn_of_good hgood hr
  · exact h.turn_of_refuted hrefuted hr

/-! ## Runs -/

/-- The next chunk: what was given up is not missed. -/
theorem AtLoop.more (h : AtLoop onPacket s b f [] w) (data : List UInt8) : AtLoop onPacket s (b ++ data) f data w where
  sound := h.sound
  state_eq := h.state_eq
  offset := fun hmode hunfailed hnever => by
    obtain ⟨hinside, hstream⟩ := h.offset hmode hunfailed hnever
    rw [List.append_nil] at hstream
    rw [List.length_append, hstream, List.drop_append_of_le_length hinside]
    exact ⟨by omega, rfl⟩

theorem TurnKeeps.loopTurn {st : Step σ} (h : TurnKeeps onPacket s b f rest st) :
    LoopTurn (AtLoop onPacket s b) (fun _ _ _ out => AtLoop onPacket s b out.framer [] out.world) f rest w st := by
  obtain ⟨f', rest', w', result⟩ := st
  cases result with
  | stop => exact .stop h.atLoop
  | needMoreData => exact .needMore h.atLoop
  | «continue» => exact .goOn (h.turns rfl) h.atLoop fun _ hend => hend

/-- **The loop ends** within its turns. -/
theorem feed_total {data : List UInt8} (h : AtLoop onPacket s b f data w) :
    ∃ out, feed onPacket f data w = .ok out ∧ AtLoop onPacket s b out.framer [] out.world := by
  apply feed_rule (Q := fun _ _ _ out => AtLoop onPacket s b out.framer [] out.world) (fun _ _ hend => hend) _ h
  intro f rest w hat hr
  obtain ⟨st, hst, hkeeps⟩ := hat.turn hr
  exact ⟨st, hst, hkeeps.loopTurn⟩

/-- **Every sequence of calls ends.** -/
theorem feedAll_total (onPacket : PacketHandler σ) (s : σ) (past : List (List UInt8)) :
    ∃ f w, feedAll onPacket {} past ⟨s, []⟩ = .ok (f, w) ∧ AtLoop onPacket s past.flatten f [] w := by
  induction past using List.reverseRecOn with
  | nil => exact ⟨{}, ⟨s, []⟩, rfl, .inl good_fresh, rfl, fun _ _ _ => ⟨Nat.le_refl 0, rfl⟩⟩
  | append_singleton past data ih =>
    obtain ⟨f, w, hrun, h⟩ := ih
    obtain ⟨out, hout, hafter⟩ := feed_total (h.more data)
    refine ⟨out.framer, out.world, feedAll_concat _ _ _ _ hrun hout, ?_⟩
    rwa [List.flatten_append, List.flatten_singleton]

/-! ## Top theorem -/

theorem AtTurn.atLoop {past : List (List UInt8)} {data : List UInt8} (h : AtTurn onPacket s past data f rest w) :
    AtLoop onPacket s (past.flatten ++ data) f rest w := by
  induction h with
  | first hrun =>
    obtain ⟨f, w, hrun', hloop⟩ := feedAll_total onPacket s past
    rw [hrun] at hrun'
    cases hrun'
    exact hloop.more data
  | next _ hr hst hcontinue ih =>
    have hkeeps := (spec_of_ok (ih.turn hr) hst).atLoop
    rwa [Step.unread, if_pos hcontinue] at hkeeps

theorem AtLoop.bufferInvariant (h : AtLoop onPacket s b f rest w) : BufferInvariant onPacket s b f rest w := by
  have hsize := h.inv.size
  have hcapacity : f.mode.capacity ≤ kSyncProbeSize := by cases f.mode <;> decide
  exact {
    size_searching := fun hmode => by
      rw [Mode.capacity_of_ne_synced hmode, kSyncProbeSize_eq] at hsize
      omega
    size_synced := fun hmode => by
      rw [hmode, Mode.capacity, PKT_SIZE_eq] at hsize
      omega
    head := h.inv.head
    offset_lt := fun hmode hunfailed => by
      rcases h.sound with hgood | hrefuted
      · exact hgood.offset hmode
      · rw [hrefuted.failed] at hunfailed
        cases hunfailed
    offset_eq := h.offset
    copy_fits := fun available => ⟨Nat.min_le_right _ _, by omega⟩
    turn := fun hr => by
      obtain ⟨st, hst, -⟩ := h.turn hr
      exact ⟨st, hst⟩ }

/-- **The buffer invariant, in-bounds copies and termination**: no sequence of `Feed` calls faults or runs out of
turns, and the invariant holds at every turn of every call. -/
theorem buffer_invariant (onPacket : PacketHandler σ) (s : σ) (past : List (List UInt8)) :
    (∃ f w, feedAll onPacket {} past ⟨s, []⟩ = .ok (f, w)) ∧
    ∀ data f rest w, AtTurn onPacket s past data f rest w →
      BufferInvariant onPacket s (past.flatten ++ data) f rest w := by
  constructor
  · obtain ⟨f, w, hrun, -⟩ := feedAll_total onPacket s past
    exact ⟨f, w, hrun⟩
  · exact fun data f rest w h => h.atLoop.bufferInvariant

end

end AribcapDump
