import AribcapDump.Framer.Chunks

/-!
# The initial search and its bytes

`HasInitialSyncFailed` should tell whether the bytes read rule out every start
offset below 188.  A true answer is never wrong.  A false one can be: each turn
looks at one candidate, and when the bytes of a `Feed` end with a false one
dropped, the next is not looked at, although all its packet boundaries may be in
the buffer.

    all cuts of b give the flag NoStart b ↔ ¬ (NoStart b ∧ LateCandidates b)     (flagDependsOnBytes_iff)
-/

namespace AribcapDump

/-! ## What the bytes rule out -/

/-- A packet boundary of the start offset `c` is among the bytes and holds no sync byte. -/
def RuledOut (b : List UInt8) (c : Nat) : Prop :=
  ∃ index, index < kSyncProbePackets ∧ c + index * PKT_SIZE < b.length ∧ b[c + index * PKT_SIZE]? ≠ some SYNC_BYTE

/-- Every start offset the initial search may take is ruled out. -/
def NoStart (b : List UInt8) : Prop := PKT_SIZE ≤ b.length ∧ ∀ c, c < PKT_SIZE → RuledOut b c

/-- Two sync bytes stand below the bound, and less than a full probe window follows the first. -/
def LateCandidates (b : List UInt8) : Prop :=
  ∃ p q, p < q ∧ q < PKT_SIZE ∧ b[p]? = some SYNC_BYTE ∧ b[q]? = some SYNC_BYTE ∧ b.length ≤ p + kSyncProbeSize

theorem pendingSyncBytesAreValid_drop (b : List UInt8) (c : Nat) :
    pendingSyncBytesAreValid (b.drop c) = false ↔ RuledOut b c := by
  rw [← Bool.not_eq_true, pendingSyncBytesAreValid_iff]
  simp only [List.getElem?_drop, List.length_drop, not_forall]
  constructor
  · rintro ⟨index, hi, hlt, hne⟩
    exact ⟨index, hi, by omega, hne⟩
  · rintro ⟨index, hi, hlt, hne⟩
    exact ⟨index, hi, by omega, hne⟩

theorem RuledOut.not_isProbe {b : List UInt8} {c : Nat} (h : RuledOut b c) (e : List UInt8) :
    isProbe ((b ++ e).drop c) = false := by
  have hle : c ≤ b.length := by
    obtain ⟨index, -, hlt, -⟩ := h
    omega
  rw [List.drop_append_of_le_length hle]
  exact isProbe_of_invalid ((pendingSyncBytesAreValid_drop b c).mpr h) e

/-- A start offset that is not ruled out can still be confirmed. -/
theorem exists_isProbe_of_not_ruledOut {b : List UInt8} {c : Nat} (hc : c < PKT_SIZE) (h : ¬ RuledOut b c) :
    ∃ e, isProbe ((b ++ e).drop c) = true := by
  refine ⟨List.replicate (PKT_SIZE + kSyncProbeSize) SYNC_BYTE, ?_⟩
  rw [isProbe_eq_true_iff]
  simp only [List.length_drop, List.length_append, List.length_replicate, List.getElem?_drop]
  refine ⟨by omega, ?_⟩
  intro index hi
  rw [List.getElem?_append]
  split
  · next hlt =>
    by_contra hne
    exact h ⟨index, hi, hlt, hne⟩
  · have hin : c + index * PKT_SIZE - b.length < PKT_SIZE + kSyncProbeSize := by
      unfold kSyncProbePackets at hi
      rw [PKT_SIZE_eq] at hc ⊢
      rw [kSyncProbeSize_eq]
      omega
    rw [List.getElem?_replicate_of_lt hin]

/-- The bytes rule out every start exactly when no continuation gives a packet. -/
theorem noStart_iff (b : List UInt8) : NoStart b ↔ ∀ e, initialFrames 0 (b ++ e) = [] := by
  simp only [initialFrames_zero_eq_nil_iff]
  constructor
  · rintro ⟨-, hruled⟩ e c hc
    exact (hruled c hc).not_isProbe e
  · intro hnone
    have hruled : ∀ c, c < PKT_SIZE → RuledOut b c := by
      intro c hc
      by_contra hnot
      obtain ⟨e, hprobe⟩ := exists_isProbe_of_not_ruledOut hc hnot
      rw [hnone e c hc] at hprobe
      cases hprobe
    refine ⟨?_, hruled⟩
    obtain ⟨index, -, hlt, -⟩ := hruled (PKT_SIZE - 1) (by decide)
    rw [PKT_SIZE_eq] at hlt ⊢
    omega

/-! ## One turn -/

/-- In the initial search, `rest` unread of the bytes `b`.  A candidate from `start` on that was passed was looked at
in a full probe window, unless it was the last look; then the current candidate has not been looked at. -/
structure Searching (b : List UInt8) (start : Nat) (f : PacketFramer) (rest : List UInt8) : Prop where
  mode_eq : f.mode = .initialSync
  stream : f.pending ++ rest = b.drop f.initialOffset
  inside : f.initialOffset ≤ b.length
  started : start ≤ f.initialOffset
  passed : rest ≠ [] → ∀ p, start ≤ p → p < f.initialOffset → b[p]? = some SYNC_BYTE → p + kSyncProbeSize < b.length
  looked : rest = [] → pendingSyncBytesAreValid f.pending = true ∨
    ∃ p, start ≤ p ∧ p < f.initialOffset ∧ b[p]? = some SYNC_BYTE ∧ b.length ≤ p + kSyncProbeSize

/-- No late candidates from `start` on. -/
def Settled (b : List UInt8) (start : Nat) : Prop :=
  ∀ p q, start ≤ p → p < q → q < PKT_SIZE → b[p]? = some SYNC_BYTE → b[q]? = some SYNC_BYTE →
    p + kSyncProbeSize < b.length

theorem settled_of_unfailed {b : List UInt8} {start : Nat} {f : PacketFramer}
    (hunfailed : f.initialSyncFailed = false) : f.initialSyncFailed = true → Settled b start := by
  intro hfailed
  rw [hunfailed] at hfailed
  cases hfailed

/-- What a turn of the initial search leaves. -/
structure SearchTurn {σ : Type} (b : List UInt8) (start : Nat) (st : Step σ) : Prop where
  searching : st.framer.mode = .initialSync → st.result ≠ .stop → Searching b start st.framer st.rest
  needMore : st.framer.mode = .initialSync → st.result = .needMoreData → st.rest = []
  failed : st.framer.initialSyncFailed = true → Settled b start

theorem findIdx_le_of_getElem? {xs : List UInt8} {i : Nat} (h : xs[i]? = some SYNC_BYTE) :
    xs.findIdx (· == SYNC_BYTE) ≤ i := by
  by_contra hlt
  rw [Nat.not_le] at hlt
  have hne := List.not_of_lt_findIdx hlt
  obtain ⟨hi, heq⟩ := List.getElem?_eq_some_iff.mp h
  simp [heq] at hne

theorem nextSync_le_of_getElem? {window : List UInt8} {i : Nat} (hi : 0 < i) (h : window[i]? = some SYNC_BYTE) :
    nextSync window ≤ i := by
  obtain ⟨j, rfl⟩ := Nat.exists_eq_succ_of_ne_zero (Nat.ne_of_gt hi)
  have htail : window.tail[j]? = some SYNC_BYTE := by rwa [List.getElem?_tail]
  exact Nat.succ_le_succ (findIdx_le_of_getElem? htail)

variable {b : List UInt8} {start : Nat} {f : PacketFramer} {rest : List UInt8}

/-- Bytes of the probe window are bytes of the stream. -/
theorem Searching.getElem?_window (h : Searching b start f rest) (hs : f.pending.length < kSyncProbeSize) {i : Nat}
    (hi : i < kSyncProbeSize) : (f.window rest)[i]? = b[f.initialOffset + i]? := by
  have hwindow : f.window rest = (b.drop f.initialOffset).take kSyncProbeSize := by
    rw [← h.stream, List.take_append, List.take_of_length_le (Nat.le_of_lt hs)]
    rfl
  rw [hwindow, List.getElem?_take_of_lt hi, List.getElem?_drop]

/-- No sync byte between a candidate and the next. -/
theorem Searching.add_nextSync_le (h : Searching b start f rest) (hs : f.pending.length < kSyncProbeSize) {p : Nat}
    (hp : f.initialOffset < p) (hp' : p < f.initialOffset + kSyncProbeSize) (hsync : b[p]? = some SYNC_BYTE) :
    f.initialOffset + nextSync (f.window rest) ≤ p := by
  have hwindow : (f.window rest)[p - f.initialOffset]? = some SYNC_BYTE := by
    rw [h.getElem?_window hs (by omega), ← hsync]
    congr 1
    omega
  have hle := nextSync_le_of_getElem? (by omega) hwindow
  omega

theorem Searching.stream_window (h : Searching b start f rest) :
    f.window rest ++ f.beyond rest = b.drop f.initialOffset := by
  have hjoin := window_append_beyond f rest []
  rwa [List.append_nil, List.append_nil, h.stream] at hjoin

/-- Dropping a false candidate moves on to the next sync byte. -/
theorem Searching.dropCandidate (h : Searching b start f rest) (hr : rest ≠ [])
    (hs : f.pending.length < kSyncProbeSize) (hsync : b[f.initialOffset]? = some SYNC_BYTE) :
    Searching b start (f.dropCandidate rest true) (f.beyond rest) := by
  have hinside := h.inside
  have hstarted := h.started
  have hnext := nextSync_le (window_ne_nil f hr hs)
  have hwlen := window_length_le f rest (Nat.le_of_lt hs)
  have hlen : (f.window rest).length + (f.beyond rest).length = b.length - f.initialOffset := by
    rw [← List.length_drop, ← h.stream_window, List.length_append]
  have hbeyond : f.beyond rest = b.drop (f.initialOffset + kSyncProbeSize) := by
    rw [← List.drop_drop, ← h.stream, List.drop_append, List.drop_of_length_le (Nat.le_of_lt hs), List.nil_append]
    rfl
  refine ⟨h.mode_eq, ?_, ?_, ?_, ?_, ?_⟩
  · show (f.window rest).drop (nextSync (f.window rest)) ++ f.beyond rest =
      b.drop (f.initialOffset + nextSync (f.window rest))
    rw [← List.drop_drop, ← h.stream_window, List.drop_append_of_le_length hnext]
  · show f.initialOffset + nextSync (f.window rest) ≤ b.length
    omega
  · show start ≤ f.initialOffset + nextSync (f.window rest)
    omega
  · intro hmore p hp hpast hpsync
    have hlong : f.initialOffset + kSyncProbeSize < b.length := by
      rwa [hbeyond, ne_eq, List.drop_eq_nil_iff, Nat.not_le] at hmore
    have hpast : p < f.initialOffset + nextSync (f.window rest) := hpast
    rcases Nat.lt_trichotomy p f.initialOffset with hlt | rfl | hgt
    · exact h.passed hr p hp hlt hpsync
    · exact hlong
    · -- no sync byte lies between the candidate and the next
      have hle := h.add_nextSync_le hs hgt (by omega) hpsync
      omega
  · intro hdone
    have hshort : b.length ≤ f.initialOffset + kSyncProbeSize := by
      rwa [hbeyond, List.drop_eq_nil_iff] at hdone
    refine .inr ⟨f.initialOffset, hstarted, ?_, hsync, hshort⟩
    show f.initialOffset < f.initialOffset + nextSync (f.window rest)
    unfold nextSync
    omega

/-- Past the bound there are no late candidates. -/
theorem Searching.settled (h : Searching b start f rest) (hr : rest ≠ []) (hs : f.pending.length < kSyncProbeSize)
    (hbound : PKT_SIZE ≤ f.initialOffset + nextSync (f.window rest)) : Settled b start := by
  intro p q hp hpq hq hpsync hqsync
  have hpassed : p < f.initialOffset := by
    by_contra hpast
    have hin : q < f.initialOffset + kSyncProbeSize := by
      rw [PKT_SIZE_eq] at hq
      rw [kSyncProbeSize_eq]
      omega
    have hle := h.add_nextSync_le hs (by omega) hin hqsync
    omega
  exact h.passed hr p hp hpassed hpsync

section
variable {σ : Type} (onPacket : PacketHandler σ) (w : Deliveries σ)

theorem fillProbe_search (h : Searching b start f rest) (hr : rest ≠ []) (hs : f.pending.length < kSyncProbeSize)
    (hunfailed : f.initialSyncFailed = false) (hsync : b[f.initialOffset]? = some SYNC_BYTE) :
    ∃ st, fillProbe onPacket f rest w true = .ok st ∧ SearchTurn b start st := by
  have hnever : f.initialSyncFailed = true → Settled b start := settled_of_unfailed hunfailed
  cases hv : pendingSyncBytesAreValid (f.window rest) with
  | false =>
    refine ⟨_, fillProbe_invalid onPacket w true hr hs hv, ?_⟩
    unfold afterFalseCandidate
    split
    · next hbound =>
      exact ⟨fun _ hstop => absurd rfl hstop, fun _ hneed => (by cases hneed), fun _ => h.settled hr hs hbound.2⟩
    · exact ⟨fun _ _ => h.dropCandidate hr hs hsync, fun _ hneed => (by cases hneed), hnever⟩
  | true =>
    by_cases hlen : (f.window rest).length < kSyncProbeSize
    · have hbeyond := (window_of_short hlen).2
      refine ⟨_, fillProbe_short onPacket w true hs hv hlen, fun _ _ => ?_, fun _ _ => hbeyond, hnever⟩
      exact ⟨h.mode_eq, h.stream_window, h.inside, h.started, fun hmore => absurd hbeyond hmore, fun _ => .inl hv⟩
    · refine ⟨_, fillProbe_full onPacket w true hs hv (Nat.not_lt.mp hlen), ?_⟩
      split
      · exact ⟨fun hmode => (by cases hmode), fun hmode => (by cases hmode), hnever⟩
      · exact ⟨fun _ hstop => absurd rfl hstop, fun _ hneed => (by cases hneed), hnever⟩

/-- No sync byte is skipped. -/
theorem Searching.passed_skip (h : Searching b start f rest) (hr : rest ≠ []) (hp : f.pending = []) {p : Nat}
    (hstart : start ≤ p) (hpast : p < f.initialOffset + rest.findIdx (· == SYNC_BYTE))
    (hsync : b[p]? = some SYNC_BYTE) : p + kSyncProbeSize < b.length := by
  have hstream := h.stream
  rw [hp, List.nil_append] at hstream
  have hbefore : p < f.initialOffset := by
    by_contra hge
    have hin : rest[p - f.initialOffset]? = some SYNC_BYTE := by
      rw [hstream, List.getElem?_drop, ← hsync]
      congr 1
      omega
    have hle := findIdx_le_of_getElem? hin
    omega
  exact h.passed hr p hstart hbefore hsync

/-- Skipping to the first sync byte. -/
theorem Searching.skip (h : Searching b start f rest) (hr : rest ≠ []) (hp : f.pending = []) :
    Searching b start (f.skip rest true) (rest.drop (rest.findIdx (· == SYNC_BYTE))) := by
  have hstarted := h.started
  have hinside := h.inside
  have hstream := h.stream
  rw [hp, List.nil_append] at hstream
  have hlen : rest.length = b.length - f.initialOffset := by rw [hstream, List.length_drop]
  have hskipped := @List.findIdx_le_length _ (· == SYNC_BYTE) rest
  refine ⟨h.mode_eq, ?_, ?_, ?_, ?_, ?_⟩
  · show f.pending ++ _ = b.drop (f.initialOffset + rest.findIdx (· == SYNC_BYTE))
    rw [hp, List.nil_append, ← List.drop_drop, ← hstream]
  · show f.initialOffset + rest.findIdx (· == SYNC_BYTE) ≤ b.length
    omega
  · show start ≤ f.initialOffset + rest.findIdx (· == SYNC_BYTE)
    omega
  · intro _ p hstart hpast hsync
    exact h.passed_skip hr hp hstart hpast hsync
  · intro _
    left
    show pendingSyncBytesAreValid f.pending = true
    rw [hp]
    rfl

/-- **One turn of the initial search.** -/
theorem feedTurn_search (h : Searching b start f rest) (hf : f.Good) (hr : rest ≠ [])
    (hunfailed : f.initialSyncFailed = false) :
    ∃ st, feedTurn onPacket f rest w = .ok st ∧ SearchTurn b start st := by
  have hs : f.pending.length < kSyncProbeSize := by
    have hsize := hf.size
    rwa [h.mode_eq] at hsize
  have hturn : feedTurn onPacket f rest w = feedSeekingSync onPacket f rest w true := by
    rw [feedTurn, h.mode_eq]
  rw [hturn]
  by_cases hp : f.pending = []
  · have hskip := h.skip hr hp
    rw [feedSeekingSync_of_empty onPacket w true hp]
    split
    · next hbound =>
      refine ⟨_, rfl, fun _ hstop => absurd rfl hstop, fun _ hneed => (by cases hneed), fun _ => ?_⟩
      intro p q hstart hpq hq hsync _
      apply h.passed_skip hr hp hstart _ hsync
      omega
    · split
      · next hnil =>
        exact ⟨_, rfl, fun _ _ => hskip, fun _ _ => hnil, settled_of_unfailed hunfailed⟩
      · next hne =>
        apply fillProbe_search onPacket w hskip hne hs hunfailed
        have hfirst := congrArg List.head? hskip.stream
        have hempty : (f.skip rest true).pending = [] := hp
        rwa [hempty, List.nil_append, head?_drop_findIdx hne, List.head?_drop, eq_comm] at hfirst
  · rw [feedSeekingSync_of_pending onPacket w true hp]
    apply fillProbe_search onPacket w h hr hs hunfailed
    have hhead := hf.head hp
    have hfirst := congrArg List.head? h.stream
    rwa [List.head?_append, hhead, List.head?_drop, Option.some_or, eq_comm] at hfirst

/-! ## One `Feed` -/

/-- What a `Feed` that ends in the initial search leaves of the bytes `b`. -/
structure SearchFeed (b : List UInt8) (start : Nat) (out : FeedOutcome σ) : Prop where
  searching : out.framer.mode = .initialSync → out.ok = true → Searching b start out.framer []
  failed : out.framer.initialSyncFailed = true → Settled b start

variable {onPacket} {w}

/-- What holds where a turn begins, of the bytes `b`, before the search has failed. -/
structure Unfailed (b : List UInt8) (start : Nat) (f : PacketFramer) (rest : List UInt8) : Prop where
  good : f.Good
  unfailed : f.initialSyncFailed = false
  searching : f.mode = .initialSync → Searching b start f rest

/-- A framer that has left the initial search does not come back to it. -/
theorem feedTurn_left (hf : f.Good) (hr : rest ≠ []) (hunfailed : f.initialSyncFailed = false)
    (hleft : f.mode ≠ .initialSync) : ∃ st, feedTurn onPacket f rest w = .ok st ∧ SearchTurn b start st := by
  obtain ⟨st, hst, hspec⟩ := feedTurn_spec onPacket w hf hr
  refine ⟨st, hst, ?_⟩
  cases hspec with
  | goOn packets f' rest' hgood hflag ht hacc hfr hm =>
    exact ⟨fun hback => absurd (hm.mp hback).1 hleft, fun hback => absurd (hm.mp hback).1 hleft,
      settled_of_unfailed (hflag.trans hunfailed)⟩
  | needMore packets f' rest' hgood hflag hacc hfr hm =>
    exact ⟨fun hback => absurd (hm.mp hback).1 hleft, fun hback => absurd (hm.mp hback).1 hleft,
      settled_of_unfailed (hflag.trans hunfailed)⟩
  | refused packets more f' rest' hgood hflag href hfr =>
    exact ⟨fun _ hstop => absurd rfl hstop, fun _ hneed => (by cases hneed),
      settled_of_unfailed (hflag.trans hunfailed)⟩
  | noSync f' rest' hrefuted hm hfr => exact absurd hm hleft

theorem Unfailed.turn (h : Unfailed b start f rest) (hr : rest ≠ []) :
    ∃ st, feedTurn onPacket f rest w = .ok st ∧
      LoopTurn (fun f rest _ => Unfailed b start f rest) (fun _ _ _ out => SearchFeed b start out) f rest w st := by
  obtain ⟨st, hst, hsearch⟩ : ∃ st, feedTurn onPacket f rest w = .ok st ∧ SearchTurn b start st := by
    by_cases hmode : f.mode = .initialSync
    · exact feedTurn_search onPacket w (h.searching hmode) h.good hr h.unfailed
    · exact feedTurn_left h.good hr h.unfailed hmode
  have hspec := spec_of_ok (feedTurn_spec onPacket w h.good hr) hst
  refine ⟨st, hst, ?_⟩
  cases hspec with
  | goOn packets f' rest' hgood hflag ht hacc hfr hm =>
    have hafter : Unfailed b start f' rest' :=
      ⟨hgood, hflag.trans h.unfailed, fun hmode => hsearch.searching hmode fun hstop => (by cases hstop)⟩
    exact .goOn ht hafter fun _ hfeed => hfeed
  | needMore packets f' rest' hgood hflag hacc hfr hm =>
    refine .needMore ⟨fun hmode _ => ?_, fun hfailed => hsearch.failed hfailed⟩
    have hread : rest' = [] := hsearch.needMore hmode rfl
    rw [← hread]
    exact hsearch.searching hmode fun hstop => (by cases hstop)
  | refused packets more f' rest' hgood hflag href hfr =>
    exact .stop ⟨fun _ hok => (by cases hok), fun hfailed => hsearch.failed hfailed⟩
  | noSync f' rest' hff hm hfr =>
    exact .stop ⟨fun _ hok => (by cases hok), fun hfailed => hsearch.failed hfailed⟩

/-- **One `Feed` in the initial search.** -/
theorem feed_search {data : List UInt8} {out : FeedOutcome σ} (hf : f.Good) (hunfailed : f.initialSyncFailed = false)
    (h : Searching b start f data) (hout : feed onPacket f data w = .ok out) : SearchFeed b start out := by
  have hnil : ∀ (f : PacketFramer) (w : Deliveries σ), Unfailed b start f [] → SearchFeed b start ⟨f, w, true⟩ :=
    fun f w hend => ⟨fun hmode _ => hend.searching hmode, settled_of_unfailed hend.unfailed⟩
  have hbegin : Unfailed b start f data := ⟨hf, hunfailed, fun _ => h⟩
  exact spec_of_ok (feed_rule (P := fun f rest _ => Unfailed b start f rest)
    (Q := fun _ _ _ out => SearchFeed b start out) hnil (fun _ _ _ hat hr => hat.turn hr) hbegin) hout

/-! ## Runs -/

/-- Between two `Feed` calls, the bytes `b` read so far. -/
structure Open (b : List UInt8) (f : PacketFramer) : Prop where
  good : f.Good
  unfailed : f.initialSyncFailed = false
  searching : f.mode = .initialSync → Searching b 0 f []

/-- More bytes to read. -/
theorem Searching.more (h : Searching b 0 f []) {data : List UInt8} (hdata : data ≠ []) :
    Searching (b ++ data) f.initialOffset f data := by
  have hinside := h.inside
  refine ⟨h.mode_eq, ?_, ?_, Nat.le_refl _, ?_, fun hnil => absurd hnil hdata⟩
  · have hstream := h.stream
    rw [List.append_nil] at hstream
    rw [hstream, List.drop_append_of_le_length hinside]
  · rw [List.length_append]
    omega
  · intro _ p hstart hpast
    omega

/-- Where a search began does not matter once all is read. -/
theorem Searching.from_zero (h : Searching b start f []) : Searching b 0 f [] := by
  refine ⟨h.mode_eq, h.stream, h.inside, Nat.zero_le _, fun hmore => absurd rfl hmore, fun hread => ?_⟩
  rcases h.looked hread with hvalid | ⟨p, -, hpast, hlate⟩
  · exact .inl hvalid
  · exact .inr ⟨p, Nat.zero_le _, hpast, hlate⟩

theorem Open.feed (h : Open b f) {data : List UInt8} {out : FeedOutcome σ}
    (hout : AribcapDump.feed onPacket f data w = .ok out) (hok : out.ok = true) : Open (b ++ data) out.framer := by
  cases spec_of_ok (feed_spec onPacket h.good data w) hout with
  | accepted f' hgood hflag hacc hfr hm =>
    refine ⟨hgood, hflag.trans h.unfailed, fun hmode => ?_⟩
    by_cases hdata : data = []
    · subst hdata
      have hsame : f = f' := congrArg FeedOutcome.framer (Except.ok.inj hout)
      subst hsame
      rw [List.append_nil]
      exact h.searching hmode
    · have hsearching := h.searching (hm.mp hmode).1
      exact ((feed_search h.good h.unfailed (hsearching.more hdata) hout).searching hmode rfl).from_zero
  | refused f' _ _ _ => cases hok
  | noSync f' _ _ _ => cases hok

theorem open_feedChunks (h : Open b f) (chunks : List (List UInt8)) {out : FeedOutcome σ}
    (hout : feedChunks onPacket f chunks w = .ok out) (hok : out.ok = true) :
    Open (b ++ chunks.flatten) out.framer := by
  induction chunks generalizing f b w with
  | nil =>
    cases hout
    rwa [List.flatten_nil, List.append_nil]
  | cons chunk chunks ih =>
    rw [feedChunks] at hout
    obtain ⟨o, ho, -⟩ := feed_spec onPacket h.good chunk w
    rw [ho] at hout
    simp only at hout
    split at hout
    · next haccepted =>
      rw [List.flatten_cons, ← List.append_assoc]
      exact ih (h.feed ho haccepted) hout
    · next hstopped =>
      cases hout
      exact absurd hok hstopped

theorem open_fresh : Open [] {} := by
  refine ⟨good_fresh, rfl, fun _ => ?_⟩
  exact ⟨rfl, rfl, Nat.le_refl _, Nat.le_refl _, fun hmore => absurd rfl hmore, fun _ => .inl (by decide)⟩

/-! ## The flag -/

/-- The failed flag is never wrong. -/
theorem FeedSpec.noStart {out : FeedOutcome σ} (h : FeedSpec onPacket {} b w out)
    (hflag : out.framer.initialSyncFailed = true) : NoStart b := by
  cases h with
  | accepted f' _ hsame _ _ _ =>
    rw [hsame] at hflag
    cases hflag
  | refused f' _ hsame _ =>
    rw [hsame] at hflag
    cases hflag
  | noSync f' _ _ hfr => exact (noStart_iff b).mpr hfr

/-- An open search of bytes that rule out every start has late candidates. -/
theorem Searching.lateCandidates (h : Searching b 0 f []) (hf : f.Good) (hnone : NoStart b) : LateCandidates b := by
  have hbound : f.initialOffset < PKT_SIZE := hf.offset h.mode_eq
  have hstream : f.pending = b.drop f.initialOffset := by
    rw [← h.stream, List.append_nil]
  have hinvalid : pendingSyncBytesAreValid f.pending = false := by
    rw [hstream]
    exact (pendingSyncBytesAreValid_drop b _).mpr (hnone.2 _ hbound)
  obtain ⟨p, -, hpast, hsync, hlate⟩ : ∃ p, 0 ≤ p ∧ p < f.initialOffset ∧ b[p]? = some SYNC_BYTE ∧
      b.length ≤ p + kSyncProbeSize := by
    refine (h.looked rfl).resolve_left ?_
    rw [hinvalid]
    exact Bool.false_ne_true
  have hpending : f.pending ≠ [] := by
    intro hnil
    rw [hnil] at hinvalid
    cases hinvalid
  have hhead := hf.head hpending
  rw [hstream, List.head?_drop] at hhead
  exact ⟨p, f.initialOffset, hpast, hbound, hsync, hhead, hlate⟩

variable (hacc : ∀ s p, (onPacket s p).2 = true)
include hacc

/-- Without late candidates it is always raised. -/
theorem failed_of_noStart {chunks : List (List UInt8)} {out : FeedOutcome σ} (hnone : NoStart chunks.flatten)
    (hsettled : ¬ LateCandidates chunks.flatten) (hout : feedChunks onPacket {} chunks w = .ok out) :
    out.framer.initialSyncFailed = true := by
  cases spec_of_ok (feedChunks_spec onPacket good_fresh chunks w) hout with
  | accepted f' hgood hsame _ _ hm =>
    have hfr := (noStart_iff _).mp hnone []
    rw [List.append_nil] at hfr
    have hopen := open_feedChunks open_fresh chunks hout rfl
    rw [List.nil_append] at hopen
    exact absurd ((hopen.searching (hm.mpr ⟨rfl, hfr⟩)).lateCandidates hgood hnone) hsettled
  | refused f' _ _ href =>
    rw [(deliver_of_forall hacc _ _).1] at href
    cases href
  | noSync f' hff _ _ => exact hff.failed

theorem failed_iff_noStart {chunks : List (List UInt8)} {out : FeedOutcome σ}
    (hsettled : ¬ (NoStart chunks.flatten ∧ LateCandidates chunks.flatten))
    (hout : feedChunks onPacket {} chunks w = .ok out) :
    out.framer.hasInitialSyncFailed = true ↔ NoStart chunks.flatten := by
  constructor
  · exact (spec_of_ok (feedChunks_spec onPacket good_fresh chunks w) hout).noStart
  · intro hnone
    exact failed_of_noStart hacc hnone (fun hlate => hsettled ⟨hnone, hlate⟩) hout

omit hacc

/-- With late candidates one `Feed` of all the bytes does not raise it. -/
theorem not_failed_of_lateCandidates (hlate : LateCandidates b) {out : FeedOutcome σ}
    (hout : feed onPacket {} b w = .ok out) : out.framer.initialSyncFailed = false := by
  obtain ⟨p, q, hpq, hq, hp, hqsync, hshort⟩ := hlate
  have hne : b ≠ [] := by
    rintro rfl
    cases hp
  have hsearching : Searching b 0 {} b :=
    ⟨rfl, rfl, Nat.zero_le _, Nat.le_refl _, fun _ _ _ hpast => absurd hpast (Nat.not_lt_zero _),
      fun hnil => absurd hnil hne⟩
  rw [Bool.eq_false_iff]
  intro hfailed
  have hfar := (feed_search good_fresh rfl hsearching hout).failed hfailed p q (Nat.zero_le _) hpq hq hp hqsync
  omega

/-! ## Top theorem -/

/-- A reader that answers the given reads and then fails. -/
def brokenReader (reads : List (List UInt8)) : ByteReader := reads.map .bytes ++ [.error]

theorem readAndFramePackets_brokenReader (reads : List (List UInt8)) (hne : ∀ r ∈ reads, r ≠ []) (s : σ)
    {out : FeedOutcome σ} (hout : feedChunks onPacket {} reads ⟨s, []⟩ = .ok out) :
    readAndFramePackets onPacket (brokenReader reads) s =
      .ok (if out.framer.hasInitialSyncFailed then .noSync else .failed, out.world) := by
  have hread : ∃ unread, feedUntilEof onPacket {} (brokenReader reads) ⟨s, []⟩ =
      .ok ⟨out.framer, out.world, unread, false⟩ := by
    cases hok : out.ok with
    | true => exact ⟨[], feedUntilEof_of_ok hne hout hok _⟩
    | false =>
      obtain ⟨asked, data, unasked, o, -, -, -, -, hread⟩ := feedUntilEof_of_stop hne hout hok [.error]
      exact ⟨_, hread⟩
  obtain ⟨unread, hread⟩ := hread
  unfold readAndFramePackets
  rw [hread]
  cases hflag : out.framer.hasInitialSyncFailed <;> simp [hflag]

/-- However the bytes `b` are cut, the flag is the same and tells whether they rule out every start; and whatever the
sizes of the reads before a read error, so is the status. -/
def FlagDependsOnBytes (b : List UInt8) : Prop :=
  ∀ (σ : Type) (onPacket : PacketHandler σ), (∀ s p, (onPacket s p).2 = true) → ∀ s : σ,
    (∀ chunks chunks' : List (List UInt8), chunks.flatten = b → chunks'.flatten = b →
      ∃ out out', feedChunks onPacket {} chunks ⟨s, []⟩ = .ok out ∧ feedChunks onPacket {} chunks' ⟨s, []⟩ = .ok out' ∧
        out.framer.hasInitialSyncFailed = out'.framer.hasInitialSyncFailed ∧
        (out.framer.hasInitialSyncFailed = true ↔ NoStart b)) ∧
    ∀ reads reads' : List (List UInt8), (∀ r ∈ reads, r ≠ []) → (∀ r ∈ reads', r ≠ []) →
      reads.flatten = b → reads'.flatten = b →
      ∃ r r', readAndFramePackets onPacket (brokenReader reads) s = .ok r ∧
        readAndFramePackets onPacket (brokenReader reads') s = .ok r' ∧ r.1 = r'.1

/-- **The flag and the bytes.**  The flag depends on the bytes only, and is exact, where they leave a start open or
have no late candidates: at most one sync byte below 188 has no full probe window behind it. -/
theorem flagDependsOnBytes_iff (b : List UInt8) : FlagDependsOnBytes b ↔ ¬ (NoStart b ∧ LateCandidates b) := by
  constructor
  · rintro hflag ⟨hnone, hlate⟩
    obtain ⟨out, -, hout, -, -, hexact⟩ :=
      (hflag Unit (fun _ _ => ((), true)) (fun _ _ => rfl) ()).1 [b] [b] (by simp) (by simp)
    have hfeed : ∃ o, feed (fun (_ : Unit) _ => ((), true)) {} b ⟨(), []⟩ = .ok o ∧ o.framer = out.framer := by
      obtain ⟨o, ho, -⟩ := feed_spec (fun (_ : Unit) _ => ((), true)) good_fresh b ⟨(), []⟩
      refine ⟨o, ho, ?_⟩
      simp only [feedChunks, ho] at hout
      split at hout <;> cases hout <;> rfl
    obtain ⟨o, ho, hsame⟩ := hfeed
    have hraised : out.framer.initialSyncFailed = true := hexact.mpr hnone
    rw [← hsame, not_failed_of_lateCandidates hlate ho] at hraised
    cases hraised
  · intro hsettled σ onPacket hacc s
    have hchunks : ∀ chunks : List (List UInt8), chunks.flatten = b →
        ∃ out, feedChunks onPacket {} chunks ⟨s, []⟩ = .ok out ∧
          (out.framer.hasInitialSyncFailed = true ↔ NoStart b) := by
      rintro chunks rfl
      obtain ⟨out, hout, -⟩ := feedChunks_spec onPacket good_fresh chunks ⟨s, []⟩
      exact ⟨out, hout, failed_iff_noStart hacc hsettled hout⟩
    have hsame : ∀ out out' : FeedOutcome σ, (out.framer.hasInitialSyncFailed = true ↔ NoStart b) →
        (out'.framer.hasInitialSyncFailed = true ↔ NoStart b) →
        out.framer.hasInitialSyncFailed = out'.framer.hasInitialSyncFailed := by
      intro out out' h h'
      rw [Bool.eq_iff_iff, h, h']
    constructor
    · intro chunks chunks' hflat hflat'
      obtain ⟨out, hout, hiff⟩ := hchunks chunks hflat
      obtain ⟨out', hout', hiff'⟩ := hchunks chunks' hflat'
      exact ⟨out, out', hout, hout', hsame out out' hiff hiff', hiff⟩
    · intro reads reads' hne hne' hflat hflat'
      obtain ⟨out, hout, hiff⟩ := hchunks reads hflat
      obtain ⟨out', hout', hiff'⟩ := hchunks reads' hflat'
      refine ⟨_, _, readAndFramePackets_brokenReader reads hne s hout,
        readAndFramePackets_brokenReader reads' hne' s hout', ?_⟩
      rw [hsame out out' hiff hiff']

end

/-- Two sync bytes and 188 other bytes: both candidates are false. -/
def twoCandidates : List UInt8 := SYNC_BYTE :: SYNC_BYTE :: List.replicate 188 0

/-- Read at once the flag stays down and a read error gives `kFailed`; cut before the last byte the flag is raised and
the status is `kNoSync`. -/
theorem flag_depends_on_cut :
    ((feedChunks (fun (_ : Unit) _ => ((), true)) {} [twoCandidates] ⟨(), []⟩).toOption.map
      (·.framer.hasInitialSyncFailed)) = some false ∧
    ((feedChunks (fun (_ : Unit) _ => ((), true)) {} [twoCandidates.take 189, twoCandidates.drop 189]
      ⟨(), []⟩).toOption.map (·.framer.hasInitialSyncFailed)) = some true ∧
    ((readAndFramePackets (fun (_ : Unit) _ => ((), true)) (brokenReader [twoCandidates]) ()).toOption.map Prod.fst) =
      some .failed ∧
    ((readAndFramePackets (fun (_ : Unit) _ => ((), true))
      (brokenReader [twoCandidates.take 189, twoCandidates.drop 189]) ()).toOption.map Prod.fst) = some .noSync ∧
    ¬ FlagDependsOnBytes twoCandidates := by
  have honce : ((feedChunks (fun (_ : Unit) _ => ((), true)) {} [twoCandidates] ⟨(), []⟩).toOption.map
      (·.framer.hasInitialSyncFailed)) = some false := by decide +kernel
  have hcut : ((feedChunks (fun (_ : Unit) _ => ((), true)) {} [twoCandidates.take 189, twoCandidates.drop 189]
      ⟨(), []⟩).toOption.map (·.framer.hasInitialSyncFailed)) = some true := by decide +kernel
  refine ⟨honce, hcut, by decide +kernel, by decide +kernel, fun hflag => ?_⟩
  obtain ⟨out, out', hout, hout', hsame, -⟩ :=
    (hflag Unit (fun _ _ => ((), true)) (fun _ _ => rfl) ()).1 [twoCandidates]
      [twoCandidates.take 189, twoCandidates.drop 189] (by simp) (by simp)
  rw [hout] at honce
  rw [hout'] at hcut
  simp only [Except.toOption, Option.map_some, Option.some.injEq] at honce hcut
  rw [honce, hcut] at hsame
  cases hsame

end AribcapDump
