import AribcapDump.Framer.Frames

/-!
# One turn of the framer

What one turn of the loop in `Feed` does, said once.

* `fillProbe_invalid`, `fillProbe_short`, `fillProbe_full`: the three ends of the probe window.
* `feedTurn_spec`: from a good state a turn faults nowhere, hands the handler some packets, and
  the packets owed before are those packets and the packets owed after (`TurnSpec`).
-/

namespace AribcapDump

/-! ## Invariants -/

/-- How many bytes the buffer may hold between turns. -/
def Mode.capacity : Mode → Nat
  | .initialSync => kSyncProbeSize
  | .seekingSync => kSyncProbeSize
  | .synced => PKT_SIZE

/-- The buffer is not full and starts with a sync byte. -/
structure PacketFramer.Inv (f : PacketFramer) : Prop where
  size : f.pending.length < f.mode.capacity
  head : f.pending ≠ [] → f.pending.head? = some SYNC_BYTE

/-- A framer whose initial search, if it still goes on, is inside its bound. -/
structure PacketFramer.Good (f : PacketFramer) : Prop extends f.Inv where
  offset : f.mode = .initialSync → f.initialOffset < PKT_SIZE

/-- A framer whose initial search has left its bound. -/
structure PacketFramer.Refuted (f : PacketFramer) : Prop extends f.Inv where
  mode_eq : f.mode = .initialSync
  failed : f.initialSyncFailed = true
  offset : PKT_SIZE ≤ f.initialOffset

theorem good_fresh : PacketFramer.Good {} where
  size := by decide
  head := fun h => absurd rfl h
  offset := fun _ => by decide

theorem Mode.capacity_of_ne_synced {m : Mode} (h : m ≠ .synced) : m.capacity = kSyncProbeSize := by
  cases m <;> first | rfl | exact absurd rfl h

/-- A good framer owes nothing for the bytes it has already been fed. -/
theorem PacketFramer.Inv.frames_nil {f : PacketFramer} (h : f.Inv) : f.frames [] = [] := by
  have hs := h.size
  unfold PacketFramer.frames
  rw [List.append_nil]
  cases hm : f.mode <;> rw [hm] at hs <;> simp only
  · exact initialFrames_of_short _ hs
  · exact seekFrames_of_short hs
  · exact syncedFrames_of_short hs

/-! ## Delivery -/

section
variable {σ : Type} (onPacket : PacketHandler σ)

/-- The handler's side after the packets, cut after the first it rejects. -/
def deliver (w : Deliveries σ) (packets : List TSPacket) : Deliveries σ × Bool :=
  let r := Offer.offer onPacket w.state packets
  (⟨r.state, w.packets ++ r.handed⟩, r.accepted)

@[simp] theorem deliver_nil (w : Deliveries σ) : deliver onPacket w [] = (w, true) := by
  simp [deliver]

theorem deliver_append_of_accepted (w : Deliveries σ) (ps qs : List TSPacket)
    (h : (deliver onPacket w ps).2 = true) :
    deliver onPacket w (ps ++ qs) = deliver onPacket (deliver onPacket w ps).1 qs := by
  simp only [deliver] at h ⊢
  rw [Offer.offer_append_of_accepted onPacket _ _ _ h]
  simp

theorem deliver_append_of_refused (w : Deliveries σ) (ps qs : List TSPacket)
    (h : (deliver onPacket w ps).2 = false) :
    deliver onPacket w (ps ++ qs) = deliver onPacket w ps := by
  simp only [deliver] at h ⊢
  rw [Offer.offer_append_of_refused onPacket _ _ _ h]

theorem emitPacket_eq {data : List UInt8} {packet : TSPacket} (h : packet? data = some packet)
    (w : Deliveries σ) : emitPacket onPacket data w = .ok (deliver onPacket w [packet]) := by
  rw [emitPacket, h]
  cases hx : (onPacket w.state packet).2 with
  | true => simp [deliver, Offer.offer_cons_of_accept onPacket _ _ _ hx, hx]
  | false => simp [deliver, Offer.offer_cons_of_refuse onPacket _ _ _ hx, hx]

theorem emitProbePackets_eq (data : List UInt8) (indexes : List Nat) (w : Deliveries σ)
    (h : ∀ index ∈ indexes, index * PKT_SIZE + PKT_SIZE ≤ data.length) :
    emitProbePackets onPacket data indexes w = .ok (deliver onPacket w
      (indexes.filterMap fun index => packet? (data.drop (index * PKT_SIZE)))) := by
  induction indexes generalizing w with
  | nil => simp [emitProbePackets]
  | cons index indexes ih =>
    obtain ⟨packet, hp⟩ : ∃ packet, packet? (data.drop (index * PKT_SIZE)) = some packet := by
      have := h index List.mem_cons_self
      exact ⟨_, packet?_of_le (by rw [List.length_drop]; omega)⟩
    have hmap : (index :: indexes).filterMap (fun index => packet? (data.drop (index * PKT_SIZE))) =
        [packet] ++ indexes.filterMap fun index => packet? (data.drop (index * PKT_SIZE)) := by
      rw [List.filterMap_cons, hp]
      rfl
    rw [emitProbePackets, emitPacket_eq onPacket hp, hmap]
    cases ha : (deliver onPacket w [packet]).2 with
    | true =>
      rw [deliver_append_of_accepted onPacket _ _ _ ha]
      simp only [ha, if_true]
      exact ih _ (fun j hj => h j (List.mem_cons_of_mem _ hj))
    | false =>
      rw [deliver_append_of_refused onPacket _ _ _ ha]
      simp only [ha, Bool.false_eq_true, if_false]
      rw [← ha]

theorem emitSyncConfirmedPackets_eq {data : List UInt8} (h : kSyncProbeSize ≤ data.length)
    (w : Deliveries σ) :
    emitSyncConfirmedPackets onPacket data w = .ok (deliver onPacket w (probePackets data)) := by
  apply emitProbePackets_eq
  intro index hi
  have : index < 4 := List.mem_range.mp hi
  rw [kSyncProbeSize_eq] at h
  rw [PKT_SIZE_eq]
  omega

/-! ## The probe window -/

/-- The probe window once the unread bytes are copied into it. -/
def PacketFramer.window (f : PacketFramer) (rest : List UInt8) : List UInt8 :=
  f.pending ++ rest.take (kSyncProbeSize - f.pending.length)

/-- The bytes the probe window leaves unread. -/
def PacketFramer.beyond (f : PacketFramer) (rest : List UInt8) : List UInt8 :=
  rest.drop (kSyncProbeSize - f.pending.length)

/-- How far the next sync byte is from a false candidate at the front. -/
def nextSync (window : List UInt8) : Nat := window.tail.findIdx (· == SYNC_BYTE) + 1

theorem window_append_beyond (f : PacketFramer) (rest e : List UInt8) :
    f.window rest ++ (f.beyond rest ++ e) = f.pending ++ (rest ++ e) := by
  unfold PacketFramer.window PacketFramer.beyond
  rw [List.append_assoc, ← List.append_assoc (rest.take _), List.take_append_drop]

theorem window_length_le (f : PacketFramer) (rest : List UInt8)
    (h : f.pending.length ≤ kSyncProbeSize) : (f.window rest).length ≤ kSyncProbeSize := by
  unfold PacketFramer.window
  simp only [List.length_append, List.length_take]
  omega

theorem beyond_length_lt (f : PacketFramer) {rest : List UInt8} (hr : rest ≠ [])
    (h : f.pending.length < kSyncProbeSize) : (f.beyond rest).length < rest.length := by
  have : 0 < rest.length := List.length_pos_of_ne_nil hr
  unfold PacketFramer.beyond
  rw [List.length_drop]
  omega

theorem window_ne_nil (f : PacketFramer) {rest : List UInt8} (hr : rest ≠ [])
    (h : f.pending.length < kSyncProbeSize) : f.window rest ≠ [] := by
  have := List.length_pos_of_ne_nil hr
  apply List.ne_nil_of_length_pos
  unfold PacketFramer.window
  simp only [List.length_append, List.length_take]
  omega

/-- Too few bytes to fill the probe window: it takes them all. -/
theorem window_of_short {f : PacketFramer} {rest : List UInt8} (hlen : (f.window rest).length < kSyncProbeSize) :
    f.window rest = f.pending ++ rest ∧ f.beyond rest = [] := by
  unfold PacketFramer.window PacketFramer.beyond at *
  simp only [List.length_append, List.length_take] at hlen
  have hle : rest.length ≤ kSyncProbeSize - f.pending.length := by omega
  exact ⟨by rw [List.take_of_length_le hle], List.drop_of_length_le hle⟩

theorem discardPendingUntilNextSync_eq {window : List UInt8} (h : window ≠ []) :
    discardPendingUntilNextSync window = .ok (nextSync window, window.drop (nextSync window)) := by
  cases window with
  | nil => exact absurd rfl h
  | cons b rest => rfl

theorem take_min_length (n : Nat) (rest : List UInt8) :
    rest.take (min n rest.length) = rest.take n := by
  rw [← List.take_take, List.take_of_length_le (Nat.le_refl _)]

theorem drop_min_length (n : Nat) (rest : List UInt8) :
    rest.drop (min n rest.length) = rest.drop n := by
  rcases Nat.le_total n rest.length with hle | hle
  · rw [Nat.min_eq_left hle]
  · rw [Nat.min_eq_right hle, List.drop_of_length_le (Nat.le_refl _), List.drop_of_length_le hle]

theorem appendPending_eq {pending src : List UInt8} (h : pending.length + src.length ≤ kSyncProbeSize) :
    appendPending pending src = .ok (pending ++ src) := by
  rw [appendPending, if_pos h]

/-- The copy into the probe window fits. -/
theorem fillProbe_copy (f : PacketFramer) (rest : List UInt8) (h : f.pending.length ≤ kSyncProbeSize) :
    sizeSub kSyncProbeSize f.pending.length = .ok (kSyncProbeSize - f.pending.length) ∧
      appendPending f.pending (rest.take (min (kSyncProbeSize - f.pending.length) rest.length)) =
        .ok (f.window rest) ∧
      rest.drop (min (kSyncProbeSize - f.pending.length) rest.length) = f.beyond rest := by
  refine ⟨by rw [sizeSub, if_pos h], ?_, drop_min_length _ _⟩
  rw [take_min_length, appendPending_eq]
  · rfl
  · rw [List.length_take]
    omega

/-- The framer once a false candidate and what cannot start a probe are dropped. -/
def PacketFramer.dropCandidate (f : PacketFramer) (rest : List UInt8) (initialSync : Bool) :
    PacketFramer :=
  { f with
    pending := (f.window rest).drop (nextSync (f.window rest))
    initialOffset :=
      if initialSync then f.initialOffset + nextSync (f.window rest) else f.initialOffset }

/-- What a false candidate leaves. -/
def afterFalseCandidate (f : PacketFramer) (rest : List UInt8) (w : Deliveries σ) (initialSync : Bool) :
    Step σ :=
  if initialSync ∧ PKT_SIZE ≤ f.initialOffset + nextSync (f.window rest) then
    ⟨{ f.dropCandidate rest initialSync with initialSyncFailed := true }, f.beyond rest, w, .stop⟩
  else ⟨f.dropCandidate rest initialSync, f.beyond rest, w, .continue⟩

variable {f : PacketFramer} {rest : List UInt8} (w : Deliveries σ) (initialSync : Bool)

theorem fillProbe_invalid (hr : rest ≠ []) (hs : f.pending.length < kSyncProbeSize)
    (hv : pendingSyncBytesAreValid (f.window rest) = false) :
    fillProbe onPacket f rest w initialSync = .ok (afterFalseCandidate f rest w initialSync) := by
  obtain ⟨h1, h2, h3⟩ := fillProbe_copy f rest (Nat.le_of_lt hs)
  have hd := discardPendingUntilNextSync_eq (window_ne_nil f hr hs)
  unfold fillProbe afterFalseCandidate PacketFramer.dropCandidate
  simp only [bind, Except.bind, h1, h2, h3, hv, hd, Bool.not_false, if_true]
  cases initialSync with
  | false => rfl
  | true =>
    simp only [if_true, true_and]
    split <;> rfl

theorem fillProbe_short (hs : f.pending.length < kSyncProbeSize)
    (hv : pendingSyncBytesAreValid (f.window rest) = true)
    (hlen : (f.window rest).length < kSyncProbeSize) :
    fillProbe onPacket f rest w initialSync =
      .ok ⟨{ f with pending := f.window rest }, f.beyond rest, w, .needMoreData⟩ := by
  obtain ⟨h1, h2, h3⟩ := fillProbe_copy f rest (Nat.le_of_lt hs)
  unfold fillProbe
  simp only [bind, Except.bind, h1, h2, h3, hv, Bool.not_true, Bool.false_eq_true, if_false,
    if_pos hlen]
  rfl

theorem fillProbe_full (hs : f.pending.length < kSyncProbeSize)
    (hv : pendingSyncBytesAreValid (f.window rest) = true)
    (hlen : kSyncProbeSize ≤ (f.window rest).length) :
    fillProbe onPacket f rest w initialSync =
      .ok (if (deliver onPacket w (probePackets (f.window rest))).2 then
        ⟨{ f with pending := [], mode := .synced }, f.beyond rest,
          (deliver onPacket w (probePackets (f.window rest))).1, .continue⟩
      else ⟨{ f with pending := [] }, f.beyond rest,
          (deliver onPacket w (probePackets (f.window rest))).1, .stop⟩) := by
  obtain ⟨h1, h2, h3⟩ := fillProbe_copy f rest (Nat.le_of_lt hs)
  have he := emitSyncConfirmedPackets_eq onPacket hlen w
  unfold fillProbe
  simp only [bind, Except.bind, h1, h2, h3, hv, he, Bool.not_true, Bool.false_eq_true, if_false,
    if_neg (Nat.not_lt.mpr hlen)]
  split <;> rfl

/-! ## The turn -/

/-- Turns still possible: a turn reads a byte or leaves `synced` mode. -/
def turnsLeft (f : PacketFramer) (rest : List UInt8) : Nat :=
  2 * rest.length + if f.mode = .synced then 1 else 0

theorem turnsLeft_le (f : PacketFramer) (rest : List UInt8) : turnsLeft f rest ≤ 2 * rest.length + 1 := by
  unfold turnsLeft
  split <;> omega

/-- What a turn from a good state does.  The packets owed before (`f.frames`) are those handed over
and those owed after. -/
inductive TurnSpec (f : PacketFramer) (rest : List UInt8) (w : Deliveries σ) : Step σ → Prop
  | goOn (packets : List TSPacket) (f' : PacketFramer) (rest' : List UInt8) :
      f'.Good → f'.initialSyncFailed = f.initialSyncFailed → turnsLeft f' rest' < turnsLeft f rest →
      (deliver onPacket w packets).2 = true →
      (∀ e, f.frames (rest ++ e) = packets ++ f'.frames (rest' ++ e)) →
      (f'.mode = .initialSync ↔ f.mode = .initialSync ∧ packets = []) →
      TurnSpec f rest w ⟨f', rest', (deliver onPacket w packets).1, .continue⟩
  | needMore (packets : List TSPacket) (f' : PacketFramer) (rest' : List UInt8) :
      f'.Good → f'.initialSyncFailed = f.initialSyncFailed → (deliver onPacket w packets).2 = true →
      (∀ e, f.frames (rest ++ e) = packets ++ f'.frames e) →
      (f'.mode = .initialSync ↔ f.mode = .initialSync ∧ packets = []) →
      TurnSpec f rest w ⟨f', rest', (deliver onPacket w packets).1, .needMoreData⟩
  | refused (packets : List TSPacket) (more : List UInt8 → List TSPacket) (f' : PacketFramer)
      (rest' : List UInt8) :
      f'.Good → f'.initialSyncFailed = f.initialSyncFailed → (deliver onPacket w packets).2 = false →
      (∀ e, f.frames (rest ++ e) = packets ++ more e) →
      TurnSpec f rest w ⟨f', rest', (deliver onPacket w packets).1, .stop⟩
  | noSync (f' : PacketFramer) (rest' : List UInt8) :
      f'.Refuted → f.mode = .initialSync → (∀ e, f.frames (rest ++ e) = []) →
      TurnSpec f rest w ⟨f', rest', w, .stop⟩

theorem TurnSpec.goOn_silent {f f' : PacketFramer} {rest rest' : List UInt8} {w : Deliveries σ}
    (hgood : f'.Good) (hflag : f'.initialSyncFailed = f.initialSyncFailed)
    (hturns : turnsLeft f' rest' < turnsLeft f rest) (hfr : ∀ e, f.frames (rest ++ e) = f'.frames (rest' ++ e))
    (hm : f'.mode = .initialSync ↔ f.mode = .initialSync) :
    TurnSpec onPacket f rest w ⟨f', rest', w, .continue⟩ := by
  have h := TurnSpec.goOn [] f' rest' hgood hflag hturns (congrArg Prod.snd (deliver_nil onPacket w)) hfr
    (by simpa using hm)
  rwa [deliver_nil] at h

theorem TurnSpec.needMore_silent {f f' : PacketFramer} {rest rest' : List UInt8} {w : Deliveries σ}
    (hgood : f'.Good) (hflag : f'.initialSyncFailed = f.initialSyncFailed)
    (hfr : ∀ e, f.frames (rest ++ e) = f'.frames e) (hm : f'.mode = .initialSync ↔ f.mode = .initialSync) :
    TurnSpec onPacket f rest w ⟨f', rest', w, .needMoreData⟩ := by
  have h := TurnSpec.needMore [] f' rest' hgood hflag (congrArg Prod.snd (deliver_nil onPacket w)) hfr
    (by simpa using hm)
  rwa [deliver_nil] at h

/-- A turn that first moves on in the stream. -/
theorem TurnSpec.of_skip {f g : PacketFramer} {rest rest' : List UInt8} {w : Deliveries σ} {st : Step σ}
    (hframes : ∀ e, f.frames (rest ++ e) = g.frames (rest' ++ e)) (hmode : f.mode = g.mode)
    (hflag : g.initialSyncFailed = f.initialSyncFailed) (hturns : turnsLeft g rest' ≤ turnsLeft f rest)
    (h : TurnSpec onPacket g rest' w st) : TurnSpec onPacket f rest w st := by
  cases h with
  | goOn packets f' rest'' hgood hfl ht hacc hfr hm =>
    exact .goOn packets f' rest'' hgood (hfl.trans hflag) (Nat.lt_of_lt_of_le ht hturns) hacc
      (fun e => (hframes e).trans (hfr e)) (by rw [hmode]; exact hm)
  | needMore packets f' rest'' hgood hfl hacc hfr hm =>
    exact .needMore packets f' rest'' hgood (hfl.trans hflag) hacc (fun e => (hframes e).trans (hfr e))
      (by rw [hmode]; exact hm)
  | refused packets more f' rest'' hgood hfl href hfr =>
    exact .refused packets more f' rest'' hgood (hfl.trans hflag) href (fun e => (hframes e).trans (hfr e))
  | noSync f' rest'' hf hm hfr =>
    exact .noSync f' rest'' hf (hmode.trans hm) (fun e => (hframes e).trans (hfr e))

/-- The mode in which `feedSeekingSync` is called with `initialSync`. -/
def searchMode (initialSync : Bool) : Mode := if initialSync then .initialSync else .seekingSync

theorem frames_of_searchMode {f : PacketFramer} {initialSync : Bool}
    (h : f.mode = searchMode initialSync)
    (e : List UInt8) : f.frames e = searchFrames initialSync f.initialOffset (f.pending ++ e) := by
  unfold PacketFramer.frames searchFrames
  rw [h]
  cases initialSync <;> rfl

theorem searchMode_ne_synced (initialSync : Bool) : searchMode initialSync ≠ .synced := by
  cases initialSync <;> decide

theorem initialSync_of_searchMode {initialSync : Bool} (h : searchMode initialSync = .initialSync) :
    initialSync = true := by
  cases initialSync with
  | true => rfl
  | false => exact absurd h (by decide)

theorem nextSync_le {window : List UInt8} (h : window ≠ []) : nextSync window ≤ window.length := by
  have h1 := @List.findIdx_le_length _ (· == SYNC_BYTE) window.tail
  have h2 := List.length_pos_of_ne_nil h
  rw [List.length_tail] at h1
  unfold nextSync
  omega

/-- Nothing between a false candidate and the next sync byte starts a probe. -/
theorem isProbe_drop_of_lt_nextSync {window : List UInt8} (hv : pendingSyncBytesAreValid window = false)
    {i : Nat} (hi : i < nextSync window) (e : List UInt8) : isProbe ((window ++ e).drop i) = false := by
  cases i with
  | zero => exact isProbe_of_invalid hv e
  | succ i =>
    cases window with
    | nil => cases hv
    | cons b rest =>
      rw [List.cons_append, List.drop_succ_cons]
      exact isProbe_drop_of_lt_findIdx (Nat.lt_of_succ_lt_succ hi) e

theorem head?_drop_findIdx {xs : List UInt8} (h : xs.drop (xs.findIdx (· == SYNC_BYTE)) ≠ []) :
    (xs.drop (xs.findIdx (· == SYNC_BYTE))).head? = some SYNC_BYTE := by
  have hlt : xs.findIdx (· == SYNC_BYTE) < xs.length := by
    rw [ne_eq, List.drop_eq_nil_iff] at h
    omega
  rw [List.head?_drop, List.getElem?_eq_getElem hlt]
  have := List.findIdx_getElem (w := hlt)
  simpa using this

theorem head?_drop_nextSync {window : List UInt8} (h : window.drop (nextSync window) ≠ []) :
    (window.drop (nextSync window)).head? = some SYNC_BYTE := by
  cases window with
  | nil => simp at h
  | cons b rest => exact head?_drop_findIdx h

section
variable {f : PacketFramer} {rest : List UInt8} (w : Deliveries σ) (initialSync : Bool)

theorem dropCandidate_inv (hns : f.mode ≠ .synced) (hr : rest ≠ [])
    (hs : f.pending.length < kSyncProbeSize) : (f.dropCandidate rest initialSync).Inv where
  size := by
    have h1 := window_length_le f rest (Nat.le_of_lt hs)
    have h2 := List.length_pos_of_ne_nil (window_ne_nil f hr hs)
    have h3 : 1 ≤ nextSync (f.window rest) := by unfold nextSync; omega
    show ((f.window rest).drop (nextSync (f.window rest))).length < f.mode.capacity
    rw [Mode.capacity_of_ne_synced hns, List.length_drop]
    omega
  head := head?_drop_nextSync

/-- Dropping a candidate at or past the bound refutes the initial search. -/
theorem dropCandidate_refuted (hm : f.mode = .initialSync) (hr : rest ≠ [])
    (hs : f.pending.length < kSyncProbeSize) (hb : PKT_SIZE ≤ f.initialOffset + nextSync (f.window rest)) :
    ({ f.dropCandidate rest true with initialSyncFailed := true } : PacketFramer).Refuted where
  toInv := {
    size := (dropCandidate_inv true (by rw [hm]; decide) hr hs).size
    head := head?_drop_nextSync }
  mode_eq := hm
  failed := rfl
  offset := hb

/-- What the search owes, with the probe window in front. -/
theorem frames_window (hm : f.mode = searchMode initialSync) (e : List UInt8) :
    f.frames (rest ++ e) =
      searchFrames initialSync f.initialOffset (f.window rest ++ (f.beyond rest ++ e)) := by
  rw [frames_of_searchMode hm, window_append_beyond]

/-- A false candidate: dropping it and what cannot start a probe. -/
theorem afterFalseCandidate_spec (hm : f.mode = searchMode initialSync) (hr : rest ≠ [])
    (hs : f.pending.length < kSyncProbeSize) (hv : pendingSyncBytesAreValid (f.window rest) = false) :
    TurnSpec onPacket f rest w (afterFalseCandidate f rest w initialSync) := by
  have hns : f.mode ≠ .synced := by rw [hm]; exact searchMode_ne_synced initialSync
  have hskip : ∀ e, f.frames (rest ++ e) =
      searchFrames initialSync
        (if initialSync then f.initialOffset + nextSync (f.window rest) else f.initialOffset)
        ((f.window rest).drop (nextSync (f.window rest)) ++ (f.beyond rest ++ e)) := by
    intro e
    rw [frames_window initialSync hm, searchFrames_drop initialSync f.initialOffset
      (fun i hi => isProbe_drop_of_lt_nextSync hv hi (f.beyond rest ++ e)),
      List.drop_append_of_le_length (nextSync_le (window_ne_nil f hr hs))]
  by_cases hb : initialSync = true ∧ PKT_SIZE ≤ f.initialOffset + nextSync (f.window rest)
  · rw [afterFalseCandidate, if_pos hb]
    obtain ⟨rfl, hb⟩ := hb
    refine .noSync _ _ (dropCandidate_refuted hm hr hs hb) hm fun e => ?_
    rw [hskip]
    exact initialFrames_of_bound hb _
  · rw [afterFalseCandidate, if_neg hb]
    refine .goOn_silent onPacket ?_ rfl ?_ ?_ Iff.rfl
    · refine { toInv := dropCandidate_inv initialSync hns hr hs, offset := fun hmi => ?_ }
      have hi : initialSync = true := initialSync_of_searchMode (hm.symm.trans hmi)
      simp only [hi, true_and, Nat.not_le] at hb
      simpa only [PacketFramer.dropCandidate, hi, if_true] using hb
    · show 2 * (f.beyond rest).length + (if f.mode = .synced then 1 else 0) < turnsLeft f rest
      have hlt := beyond_length_lt f hr hs
      unfold turnsLeft
      rw [if_neg hns]
      omega
    · intro e
      rw [hskip]
      exact (frames_of_searchMode (f := f.dropCandidate rest initialSync) hm _).symm

/-- Too few bytes to decide: all of them are buffered and the candidate still stands. -/
theorem fillProbe_short_spec (hf : f.Good) (hm : f.mode = searchMode initialSync)
    (hhead : (f.pending ++ rest).head? = some SYNC_BYTE)
    (hlen : (f.window rest).length < kSyncProbeSize) :
    TurnSpec onPacket f rest w ⟨{ f with pending := f.window rest }, f.beyond rest, w, .needMoreData⟩ := by
  obtain ⟨hwindow, hbeyond⟩ := window_of_short hlen
  rw [hbeyond]
  refine .needMore_silent onPacket ?_ rfl ?_ Iff.rfl
  · refine { size := ?_, head := fun _ => ?_, offset := hf.offset }
    · rw [Mode.capacity_of_ne_synced (by rw [hm]; exact searchMode_ne_synced initialSync)]
      exact hlen
    · rw [hwindow]
      exact hhead
  · intro e
    rw [frames_window initialSync hm, hbeyond, List.nil_append]
    exact (frames_of_searchMode (f := { f with pending := f.window rest }) hm _).symm

/-- Four packets confirmed. -/
theorem fillProbe_full_spec (hf : f.Good) (hm : f.mode = searchMode initialSync) (hr : rest ≠ [])
    (hs : f.pending.length < kSyncProbeSize) (hv : pendingSyncBytesAreValid (f.window rest) = true)
    (hlen : kSyncProbeSize ≤ (f.window rest).length) :
    TurnSpec onPacket f rest w
      (if (deliver onPacket w (probePackets (f.window rest))).2 then
        ⟨{ f with pending := [], mode := .synced }, f.beyond rest,
          (deliver onPacket w (probePackets (f.window rest))).1, .continue⟩
      else ⟨{ f with pending := [] }, f.beyond rest,
          (deliver onPacket w (probePackets (f.window rest))).1, .stop⟩) := by
  have hns : f.mode ≠ .synced := by rw [hm]; exact searchMode_ne_synced initialSync
  have hoff : initialSync = true → f.initialOffset < PKT_SIZE := by
    intro hi
    exact hf.offset (by rw [hm, hi]; rfl)
  have heq : (f.window rest).length = kSyncProbeSize :=
    Nat.le_antisymm (window_length_le f rest (Nat.le_of_lt hs)) hlen
  have hfr : ∀ e, f.frames (rest ++ e) =
      probePackets (f.window rest) ++ syncedFrames (f.beyond rest ++ e) := by
    intro e
    rw [frames_window initialSync hm, searchFrames_of_probe initialSync hoff (isProbe_of_valid hv hlen _),
      probePackets_append hlen, ← heq, List.drop_left]
  split
  · next hacc =>
    refine .goOn _ _ _ ?_ rfl ?_ hacc hfr ?_
    · exact { size := by simp [Mode.capacity, PKT_SIZE], head := fun h => absurd rfl h,
              offset := fun h => by cases h }
    · have hlt := beyond_length_lt f hr hs
      simp only [turnsLeft, if_true, hns, if_false]
      omega
    · simp [probePackets_ne_nil hlen]
  · next href =>
    refine .refused _ _ _ _ ?_ rfl (by simpa using href) hfr
    exact { size := by rw [Mode.capacity_of_ne_synced hns]; exact Nat.succ_pos _,
            head := fun h => absurd rfl h, offset := hf.offset }

theorem fillProbe_spec (hf : f.Good) (hm : f.mode = searchMode initialSync) (hr : rest ≠ [])
    (hhead : (f.pending ++ rest).head? = some SYNC_BYTE) :
    ∃ st, fillProbe onPacket f rest w initialSync = .ok st ∧ TurnSpec onPacket f rest w st := by
  have hs : f.pending.length < kSyncProbeSize := by
    have hsize := hf.size
    rwa [Mode.capacity_of_ne_synced (by rw [hm]; exact searchMode_ne_synced initialSync)] at hsize
  cases hv : pendingSyncBytesAreValid (f.window rest) with
  | false =>
    exact ⟨_, fillProbe_invalid onPacket w initialSync hr hs hv,
      afterFalseCandidate_spec onPacket w initialSync hm hr hs hv⟩
  | true =>
    by_cases hlen : (f.window rest).length < kSyncProbeSize
    · exact ⟨_, fillProbe_short onPacket w initialSync hs hv hlen,
        fillProbe_short_spec onPacket w initialSync hf hm hhead hlen⟩
    · have hlong := Nat.not_lt.mp hlen
      exact ⟨_, fillProbe_full onPacket w initialSync hs hv hlong,
        fillProbe_full_spec onPacket w initialSync hf hm hr hs hv hlong⟩

/-- The framer once the bytes before the first sync byte are skipped. -/
def PacketFramer.skip (f : PacketFramer) (rest : List UInt8) (initialSync : Bool) : PacketFramer :=
  { f with initialOffset :=
      if initialSync then f.initialOffset + rest.findIdx (· == SYNC_BYTE) else f.initialOffset }

theorem skip_refuted (hf : f.Inv) (hm : f.mode = .initialSync)
    (hb : PKT_SIZE ≤ f.initialOffset + rest.findIdx (· == SYNC_BYTE)) :
    ({ f.skip rest true with initialSyncFailed := true } : PacketFramer).Refuted where
  toInv := { size := hf.size, head := hf.head }
  mode_eq := hm
  failed := rfl
  offset := hb

theorem feedSeekingSync_of_empty (hp : f.pending = []) :
    feedSeekingSync onPacket f rest w initialSync =
      if initialSync = true ∧ PKT_SIZE ≤ f.initialOffset + rest.findIdx (· == SYNC_BYTE) then
        .ok ⟨{ f.skip rest initialSync with initialSyncFailed := true },
          rest.drop (rest.findIdx (· == SYNC_BYTE)), w, .stop⟩
      else if rest.drop (rest.findIdx (· == SYNC_BYTE)) = [] then
        .ok ⟨f.skip rest initialSync, rest.drop (rest.findIdx (· == SYNC_BYTE)), w, .needMoreData⟩
      else fillProbe onPacket (f.skip rest initialSync) (rest.drop (rest.findIdx (· == SYNC_BYTE))) w
        initialSync := by
  unfold feedSeekingSync PacketFramer.skip
  rw [if_pos (by rw [hp]; rfl)]
  cases initialSync <;> simp [List.isEmpty_iff]

theorem feedSeekingSync_of_pending (hp : f.pending ≠ []) :
    feedSeekingSync onPacket f rest w initialSync = fillProbe onPacket f rest w initialSync := by
  rw [feedSeekingSync, if_neg (by simpa using hp)]

theorem feedSeekingSync_spec (hf : f.Good) (hm : f.mode = searchMode initialSync) (hr : rest ≠ []) :
    ∃ st, feedSeekingSync onPacket f rest w initialSync = .ok st ∧ TurnSpec onPacket f rest w st := by
  by_cases hp : f.pending = []
  · -- scan for the first candidate
    have howed : ∀ e, f.frames (rest ++ e) = searchFrames initialSync (f.skip rest initialSync).initialOffset
        (rest.drop (rest.findIdx (· == SYNC_BYTE)) ++ e) := by
      intro e
      rw [frames_of_searchMode hm, hp, List.nil_append, searchFrames_drop initialSync f.initialOffset
        (fun i hi => isProbe_drop_of_lt_findIdx hi e), List.drop_append_of_le_length List.findIdx_le_length]
      rfl
    have hskip : ∀ e, (f.skip rest initialSync).frames e =
        searchFrames initialSync (f.skip rest initialSync).initialOffset e := by
      intro e
      rw [frames_of_searchMode (f := f.skip rest initialSync) hm]
      simp only [PacketFramer.skip, hp, List.nil_append]
    rw [feedSeekingSync_of_empty onPacket w initialSync hp]
    split
    · next hb =>
      obtain ⟨rfl, hb⟩ := hb
      refine ⟨_, rfl, .noSync _ _ (skip_refuted hf.toInv hm hb) hm fun e => ?_⟩
      rw [howed]
      exact initialFrames_of_bound hb _
    · next hb =>
      have hgood : (f.skip rest initialSync).Good := by
        refine { size := hf.size, head := hf.head, offset := fun hmi => ?_ }
        have hi : initialSync = true := initialSync_of_searchMode (hm.symm.trans hmi)
        simp only [hi, true_and, Nat.not_le] at hb
        simpa only [PacketFramer.skip, hi, if_true] using hb
      split
      · next hnil =>
        refine ⟨_, rfl, .needMore_silent onPacket hgood rfl (fun e => ?_) Iff.rfl⟩
        rw [howed, hnil, List.nil_append, hskip]
      · next hne =>
        obtain ⟨st, hst, hspec⟩ := fillProbe_spec onPacket w initialSync hgood hm hne
          (by simp only [PacketFramer.skip, hp, List.nil_append]; exact head?_drop_findIdx hne)
        refine ⟨st, hst, TurnSpec.of_skip (g := f.skip rest initialSync) onPacket (fun e => ?_) rfl rfl ?_ hspec⟩
        · rw [howed, hskip]
        · have hmode : (f.skip rest initialSync).mode = f.mode := rfl
          simp only [turnsLeft, hmode, List.length_drop]
          omega
  · rw [feedSeekingSync_of_pending onPacket w initialSync hp]
    apply fillProbe_spec onPacket w initialSync hf hm hr
    rw [List.head?_append, hf.head hp]
    rfl

theorem frames_of_synced {f : PacketFramer} (hm : f.mode = .synced) (e : List UInt8) :
    f.frames e = syncedFrames (f.pending ++ e) := by
  rw [PacketFramer.frames, hm]

theorem good_of_synced_empty {f : PacketFramer} (hm : f.mode = .synced) (hp : f.pending = []) :
    f.Good where
  size := by rw [hm, hp]; decide
  head := fun h => absurd hp h
  offset := fun h => by rw [hm] at h; cases h

/-- At a packet boundary: a lost sync, a packet split by the end of the chunk, or a packet. -/
theorem feedSynced_spec_of_empty (hf : f.Good) (hm : f.mode = .synced) (hr : rest ≠ [])
    (hp : f.pending = []) :
    ∃ st, feedSynced onPacket f rest w = .ok st ∧ TurnSpec onPacket f rest w st := by
  have hturn : turnsLeft f rest = 2 * rest.length + 1 := by simp [turnsLeft, hm]
  unfold feedSynced
  rw [if_neg (by simp [hp])]
  split
  · next hlost =>
    refine ⟨_, rfl, .goOn_silent onPacket ?_ rfl ?_ ?_ (by simp [hm])⟩
    · exact { size := by rw [hp]; exact Nat.succ_pos _, head := hf.head, offset := fun h => by cases h }
    · rw [hturn]
      simp [turnsLeft]
    · intro e
      have hhead : (rest ++ e).head? ≠ some SYNC_BYTE := by
        cases rest with
        | nil => exact absurd rfl hr
        | cons b rest => exact hlost
      rw [frames_of_synced hm, hp, List.nil_append, syncedFrames_of_lost hhead]
      simp [PacketFramer.frames]
  · next hsync =>
    rw [ne_eq, not_not] at hsync
    split
    · next hshort =>
      have hap : appendPending [] rest = .ok rest := by
        apply appendPending_eq
        rw [kSyncProbeSize_eq]
        rw [PKT_SIZE_eq] at hshort
        simp only [List.length_nil]
        omega
      simp only [hap, bind, Except.bind]
      refine ⟨_, rfl, .needMore_silent onPacket ?_ rfl ?_ Iff.rfl⟩
      · exact { size := by simp only [hm]; exact hshort, head := fun _ => hsync,
                offset := fun h => by simp [hm] at h }
      · intro e
        rw [frames_of_synced hm, frames_of_synced (f := { f with pending := rest }) hm, hp]
        rfl
    · next hlong =>
      have hle : PKT_SIZE ≤ rest.length := Nat.not_lt.mp hlong
      obtain ⟨packet, hpk⟩ : ∃ packet, packet? rest = some packet := ⟨_, packet?_of_le hle⟩
      have hfr : ∀ e, f.frames (rest ++ e) = [packet] ++ syncedFrames (rest.drop PKT_SIZE ++ e) := by
        intro e
        have hhead : (rest ++ e).head? = some SYNC_BYTE := by rw [List.head?_append, hsync]; rfl
        rw [frames_of_synced hm, hp, List.nil_append,
          syncedFrames_of_packet hhead ((packet?_append hle e).trans hpk), List.drop_append_of_le_length hle]
        rfl
      simp only [emitPacket_eq onPacket hpk, bind, Except.bind]
      split
      · next hacc =>
        refine ⟨_, rfl, .goOn _ _ _ hf rfl ?_ hacc ?_ (by simp [hm])⟩
        · rw [hturn]
          simp only [turnsLeft, hm, if_true, List.length_drop]
          rw [PKT_SIZE_eq] at hle ⊢
          omega
        · intro e
          rw [hfr, frames_of_synced hm, hp, List.nil_append]
      · next href => exact ⟨_, rfl, .refused _ _ _ _ hf rfl (by simpa using href) hfr⟩

/-- Completing the buffered packet. -/
theorem feedSynced_spec_of_pending (hf : f.Good) (hm : f.mode = .synced) (hr : rest ≠ [])
    (hp : f.pending ≠ []) :
    ∃ st, feedSynced onPacket f rest w = .ok st ∧ TurnSpec onPacket f rest w st := by
  have hs : f.pending.length < PKT_SIZE := by
    have := hf.size
    rwa [hm] at this
  have hturn : turnsLeft f rest = 2 * rest.length + 1 := by simp [turnsLeft, hm]
  have hlen := List.length_pos_of_ne_nil hr
  have hhead : ∀ xs, (f.pending ++ xs).head? = some SYNC_BYTE := by
    intro xs
    rw [List.head?_append, hf.head hp]
    rfl
  have hap : appendPending f.pending (rest.take (PKT_SIZE - f.pending.length)) =
      .ok (f.pending ++ rest.take (PKT_SIZE - f.pending.length)) := by
    apply appendPending_eq
    rw [List.length_take, kSyncProbeSize_eq]
    rw [PKT_SIZE_eq] at hs ⊢
    omega
  have hjoin : ∀ e, f.pending ++ (rest ++ e) = (f.pending ++ rest.take (PKT_SIZE - f.pending.length)) ++
      (rest.drop (PKT_SIZE - f.pending.length) ++ e) := by
    intro e
    rw [List.append_assoc, ← List.append_assoc (rest.take _), List.take_append_drop]
  unfold feedSynced
  rw [if_pos (by simpa using hp)]
  simp only [sizeSub, if_pos (Nat.le_of_lt hs), take_min_length, drop_min_length, hap, bind,
    Except.bind]
  split
  · next hshort =>
    have hle : rest.length ≤ PKT_SIZE - f.pending.length := by
      simp only [List.length_append, List.length_take] at hshort
      omega
    rw [List.take_of_length_le hle] at hshort ⊢
    refine ⟨_, rfl, .needMore_silent onPacket ?_ rfl ?_ Iff.rfl⟩
    · exact { size := by simp only [hm]; exact hshort, head := fun _ => hhead _,
              offset := fun h => by simp [hm] at h }
    · intro e
      rw [frames_of_synced hm, frames_of_synced (f := { f with pending := f.pending ++ rest }) hm,
        List.append_assoc]
  · next hlong =>
    have hle : PKT_SIZE ≤ (f.pending ++ rest.take (PKT_SIZE - f.pending.length)).length := Nat.not_lt.mp hlong
    have hdrop : (f.pending ++ rest.take (PKT_SIZE - f.pending.length)).drop PKT_SIZE = [] := by
      rw [List.drop_eq_nil_iff]
      simp only [List.length_append, List.length_take]
      omega
    obtain ⟨packet, hpk⟩ : ∃ packet, packet? (f.pending ++ rest.take (PKT_SIZE - f.pending.length)) =
      some packet := ⟨_, packet?_of_le hle⟩
    have hfr : ∀ e, f.frames (rest ++ e) =
        [packet] ++ syncedFrames (rest.drop (PKT_SIZE - f.pending.length) ++ e) := by
      intro e
      rw [frames_of_synced hm,
        syncedFrames_of_packet (hhead _) (hjoin e ▸ (packet?_append hle _).trans hpk),
        hjoin, List.drop_append_of_le_length hle, hdrop]
      rfl
    simp only [emitPacket_eq onPacket hpk]
    cases hacc : (deliver onPacket w [packet]).2 with
    | true =>
      refine ⟨_, rfl, .goOn _ _ _ (good_of_synced_empty hm rfl) rfl ?_ hacc ?_ (by simp [hm])⟩
      · rw [hturn]
        simp only [turnsLeft, hm, if_true, List.length_drop]
        omega
      · intro e
        rw [hfr, frames_of_synced (f := { f with pending := [] }) hm]
        rfl
    | false => exact ⟨_, rfl, .refused _ _ _ _ (good_of_synced_empty hm rfl) rfl hacc hfr⟩

/-- **One turn.**  From a good state no turn faults, and it does what `TurnSpec` says. -/
theorem feedTurn_spec (hf : f.Good) (hr : rest ≠ []) :
    ∃ st, feedTurn onPacket f rest w = .ok st ∧ TurnSpec onPacket f rest w st := by
  unfold feedTurn
  cases hm : f.mode with
  | initialSync => exact feedSeekingSync_spec onPacket w true hf hm hr
  | seekingSync => exact feedSeekingSync_spec onPacket w false hf hm hr
  | synced =>
    by_cases hp : f.pending = []
    · exact feedSynced_spec_of_empty onPacket w hf hm hr hp
    · exact feedSynced_spec_of_pending onPacket w hf hm hr hp

end

end

end AribcapDump
