import AribcapDump.Framer.Turn

/-!
# One `Feed`

The loop of `Feed` from a good state: it ends without a fault, the handler is
handed the packets the framer owed for the chunk, cut after the first it
rejects, and what is owed for later bytes is what the framer owes then.

    f.Good → ∃ out, feed onPacket f data w = .ok out ∧ FeedSpec onPacket f data w out    (feed_spec)

`feed_rule` is the induction over the turns: what is shown of one turn holds of
the loop.
-/

namespace AribcapDump

section
variable {σ : Type} (onPacket : PacketHandler σ)

/-- What one `Feed` of `data` to a good framer does. -/
inductive FeedSpec (f : PacketFramer) (data : List UInt8) (w : Deliveries σ) : FeedOutcome σ → Prop
  | accepted (f' : PacketFramer) :
      f'.Good → f'.initialSyncFailed = f.initialSyncFailed →
      (deliver onPacket w (f.frames data)).2 = true →
      (∀ e, f.frames (data ++ e) = f.frames data ++ f'.frames e) →
      (f'.mode = .initialSync ↔ f.mode = .initialSync ∧ f.frames data = []) →
      FeedSpec f data w ⟨f', (deliver onPacket w (f.frames data)).1, true⟩
  | refused (f' : PacketFramer) :
      f'.Good → f'.initialSyncFailed = f.initialSyncFailed →
      (deliver onPacket w (f.frames data)).2 = false →
      FeedSpec f data w ⟨f', (deliver onPacket w (f.frames data)).1, false⟩
  | noSync (f' : PacketFramer) :
      f'.Refuted → f.mode = .initialSync → (∀ e, f.frames (data ++ e) = []) →
      FeedSpec f data w ⟨f', w, false⟩

variable {onPacket} {f : PacketFramer} {data : List UInt8} {w : Deliveries σ}

/-- Whatever happens, the handler is handed the packets owed, cut after the first it rejects. -/
theorem FeedSpec.world_eq {out : FeedOutcome σ} (h : FeedSpec onPacket f data w out) :
    out.world = (deliver onPacket w (f.frames data)).1 := by
  cases h with
  | accepted f' _ _ _ _ _ => rfl
  | refused f' _ _ _ => rfl
  | noSync f' _ _ hfr =>
    have := hfr []
    rw [List.append_nil] at this
    rw [this, deliver_nil]

theorem FeedSpec.of_nil (hf : f.Good) (w : Deliveries σ) : FeedSpec onPacket f [] w ⟨f, w, true⟩ := by
  have hnil := hf.toInv.frames_nil
  have h : FeedSpec onPacket f [] w ⟨f, (deliver onPacket w (f.frames [])).1, true⟩ :=
    .accepted f hf rfl (by simp [hnil]) (fun e => by simp [hnil]) (by simp [hnil])
  rwa [hnil, deliver_nil] at h

/-- A turn that hands over packets and goes on, before the rest of the loop. -/
theorem FeedSpec.of_turn {packets : List TSPacket} {f' : PacketFramer} {rest' : List UInt8}
    {out : FeedOutcome σ} (hflag : f'.initialSyncFailed = f.initialSyncFailed)
    (hacc : (deliver onPacket w packets).2 = true)
    (hfr : ∀ e, f.frames (data ++ e) = packets ++ f'.frames (rest' ++ e))
    (hm : f'.mode = .initialSync ↔ f.mode = .initialSync ∧ packets = [])
    (h : FeedSpec onPacket f' rest' (deliver onPacket w packets).1 out) : FeedSpec onPacket f data w out := by
  have hnow : f.frames data = packets ++ f'.frames rest' := by simpa using hfr []
  have hdel : deliver onPacket w (f.frames data) =
      deliver onPacket (deliver onPacket w packets).1 (f'.frames rest') := by
    rw [hnow, deliver_append_of_accepted onPacket _ _ _ hacc]
  cases h with
  | accepted g hgood hfl hacc' hfr' hm' =>
    rw [← hdel] at hacc' ⊢
    refine .accepted g hgood (hfl.trans hflag) hacc' (fun e => ?_) ?_
    · rw [hfr, hfr', hnow, List.append_assoc]
    · rw [hm', hm, hnow, List.append_eq_nil_iff, and_assoc]
  | refused g hgood hfl href =>
    rw [← hdel] at href ⊢
    exact .refused g hgood (hfl.trans hflag) href
  | noSync g hf hm' hfr' =>
    obtain ⟨hmode, hnil⟩ := hm.mp hm'
    subst hnil
    rw [deliver_nil]
    exact .noSync g hf hmode fun e => by rw [hfr, hfr', List.append_nil]

/-- What is proved of the result a call has holds of the result it is seen to have. -/
theorem spec_of_ok {ε α : Type} {x : Except ε α} {P : α → Prop} (h : ∃ a, x = .ok a ∧ P a) {a : α}
    (ha : x = .ok a) : P a := by
  obtain ⟨a', ha', hp⟩ := h
  obtain rfl : a' = a := Except.ok.inj (ha'.symm.trans ha)
  exact hp

/-- No data is no turn of the loop. -/
theorem feed_eq_feedLoop (onPacket : PacketHandler σ) (f : PacketFramer) (data : List UInt8) (w : Deliveries σ) :
    feed onPacket f data w = feedLoop onPacket (2 * data.length + 1) f data w := by
  unfold feed
  split
  · next hnil =>
    rw [List.length_eq_zero_iff] at hnil
    rw [hnil, feedLoop]
  · rfl

/-! ## The induction over the turns -/

/-- What a turn must do for the loop: where it ends the loop the outcome is as `Q` says, and where it goes on it has fewer
turns to go, keeps `P`, and `Q` of the rest of the loop gives `Q` of all. -/
inductive LoopTurn (P : PacketFramer → List UInt8 → Deliveries σ → Prop)
    (Q : PacketFramer → List UInt8 → Deliveries σ → FeedOutcome σ → Prop)
    (f : PacketFramer) (rest : List UInt8) (w : Deliveries σ) : Step σ → Prop
  | goOn {f' : PacketFramer} {rest' : List UInt8} {w' : Deliveries σ} :
      turnsLeft f' rest' < turnsLeft f rest → P f' rest' w' → (∀ out, Q f' rest' w' out → Q f rest w out) →
      LoopTurn P Q f rest w ⟨f', rest', w', .continue⟩
  | needMore {f' : PacketFramer} {rest' : List UInt8} {w' : Deliveries σ} :
      Q f rest w ⟨f', w', true⟩ → LoopTurn P Q f rest w ⟨f', rest', w', .needMoreData⟩
  | stop {f' : PacketFramer} {rest' : List UInt8} {w' : Deliveries σ} :
      Q f rest w ⟨f', w', false⟩ → LoopTurn P Q f rest w ⟨f', rest', w', .stop⟩

section
variable {P : PacketFramer → List UInt8 → Deliveries σ → Prop}
  {Q : PacketFramer → List UInt8 → Deliveries σ → FeedOutcome σ → Prop}
  (hnil : ∀ f w, P f [] w → Q f [] w ⟨f, w, true⟩)
  (hturn : ∀ f rest w, P f rest w → rest ≠ [] → ∃ st, feedTurn onPacket f rest w = .ok st ∧ LoopTurn P Q f rest w st)
include hnil hturn

/-- With a turn for every byte and one to leave `synced` mode the loop does not reach its limit. -/
theorem feedLoop_rule (turns : Nat) :
    ∀ (f : PacketFramer) (rest : List UInt8) (w : Deliveries σ), P f rest w → turnsLeft f rest ≤ turns →
    ∃ out, feedLoop onPacket turns f rest w = .ok out ∧ Q f rest w out := by
  induction turns with
  | zero =>
    intro f rest w h hturns
    cases rest with
    | nil => exact ⟨_, by rw [feedLoop], hnil f w h⟩
    | cons byte rest => simp [turnsLeft] at hturns
  | succ turns ih =>
    intro f rest w h hturns
    cases rest with
    | nil => exact ⟨_, by rw [feedLoop], hnil f w h⟩
    | cons byte rest =>
      obtain ⟨st, hst, hloop⟩ := hturn f (byte :: rest) w h (List.cons_ne_nil byte rest)
      rw [feedLoop, hst]
      cases hloop with
      | goOn hfewer hkept hwhole =>
        obtain ⟨out, hout, hq⟩ := ih _ _ _ hkept (by omega)
        exact ⟨out, hout, hwhole out hq⟩
      | needMore hq => exact ⟨_, rfl, hq⟩
      | stop hq => exact ⟨_, rfl, hq⟩

theorem feed_rule {f : PacketFramer} {data : List UInt8} {w : Deliveries σ} (h : P f data w) :
    ∃ out, feed onPacket f data w = .ok out ∧ Q f data w out := by
  rw [feed_eq_feedLoop]
  exact feedLoop_rule hnil hturn _ f data w h (turnsLeft_le f data)

end

/-! ## The loop from a good state -/

theorem feedTurn_loopTurn (onPacket : PacketHandler σ) (f : PacketFramer) (rest : List UInt8) (w : Deliveries σ)
    (hf : f.Good) (hr : rest ≠ []) :
    ∃ st, feedTurn onPacket f rest w = .ok st ∧
      LoopTurn (fun f _ _ => f.Good) (FeedSpec onPacket) f rest w st := by
  obtain ⟨st, hst, hspec⟩ := feedTurn_spec onPacket w hf hr
  refine ⟨st, hst, ?_⟩
  cases hspec with
  | goOn packets f' rest' hgood hflag ht hacc hfr hm =>
    exact .goOn ht hgood fun out h => .of_turn hflag hacc hfr hm h
  | needMore packets f' rest' hgood hflag hacc hfr hm =>
    have hnow : f.frames rest = packets := by simpa [hgood.toInv.frames_nil] using hfr []
    apply LoopTurn.needMore
    rw [← hnow] at hacc hfr hm ⊢
    exact .accepted f' hgood hflag hacc hfr hm
  | refused packets more f' rest' hgood hflag href hfr =>
    have hnow : deliver onPacket w (f.frames rest) = deliver onPacket w packets := by
      have := hfr []
      rw [List.append_nil] at this
      rw [this, deliver_append_of_refused onPacket _ _ _ href]
    apply LoopTurn.stop
    rw [← hnow] at href ⊢
    exact .refused f' hgood hflag href
  | noSync f' rest' hrefuted hm hfr => exact .stop (.noSync f' hrefuted hm hfr)

/-- **The loop of `Feed`** with the turns it needs. -/
theorem feedLoop_spec (onPacket : PacketHandler σ) (turns : Nat) (f : PacketFramer) (rest : List UInt8)
    (w : Deliveries σ) (hf : f.Good) (hturns : turnsLeft f rest ≤ turns) :
    ∃ out, feedLoop onPacket turns f rest w = .ok out ∧ FeedSpec onPacket f rest w out :=
  feedLoop_rule (fun _ w hgood => .of_nil hgood w) (feedTurn_loopTurn onPacket) turns f rest w hf hturns

/-- **One `Feed`.** -/
theorem feed_spec (onPacket : PacketHandler σ) (hf : f.Good) (data : List UInt8) (w : Deliveries σ) :
    ∃ out, feed onPacket f data w = .ok out ∧ FeedSpec onPacket f data w out :=
  feed_rule (fun _ w hgood => .of_nil hgood w) (feedTurn_loopTurn onPacket) hf

end

end AribcapDump
