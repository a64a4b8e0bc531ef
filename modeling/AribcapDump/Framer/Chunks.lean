import AribcapDump.Framer.Feed

/-!
# Chunks

How the bytes are cut does not matter.  The states reached by different cuts
differ (one may hold a candidate another has already dropped), but what they owe
does not: feeding the chunks one by one satisfies the specification of one `Feed`
of all the bytes (`feedChunks_spec`).  So the packets are the same, and
`feedUntilEof` gives the same result and the same `hasInitialSyncFailed` whatever
the sizes of the reads (`feedChunks_eq_feed`).
-/

namespace AribcapDump

/-- The states reached by `Feed` calls that all returned true, with any handlers. -/
inductive Reachable : PacketFramer → Prop
  | fresh : Reachable {}
  | feed {σ : Type} {onPacket : PacketHandler σ} {f : PacketFramer} {data : List UInt8} {w : Deliveries σ}
      {out : FeedOutcome σ} :
      Reachable f → feed onPacket f data w = .ok out → out.ok = true → Reachable out.framer

theorem Reachable.good {f : PacketFramer} (h : Reachable f) : f.Good := by
  induction h with
  | fresh => exact good_fresh
  | feed _ hfeed hok ih =>
    rename_i onPacket f data w out _
    cases spec_of_ok (feed_spec onPacket ih data w) hfeed with
    | accepted f' hgood _ _ _ _ => exact hgood
    | refused f' _ _ _ => cases hok
    | noSync f' _ _ _ => cases hok

section
variable {σ : Type} (onPacket : PacketHandler σ)

/-- `Feed` the chunks one by one, up to the first that returns false. -/
def feedChunks : PacketFramer → List (List UInt8) → Deliveries σ → Except Fault (FeedOutcome σ)
  | f, [], w => .ok ⟨f, w, true⟩
  | f, chunk :: chunks, w =>
    match feed onPacket f chunk w with
    | .error e => .error e
    | .ok out => if out.ok then feedChunks out.framer chunks out.world else .ok out

/-- A reader that answers the given reads and then reports the end of the input. -/
def readerOf (reads : List (List UInt8)) : ByteReader := reads.map .bytes ++ [.bytes []]

variable {onPacket}

theorem deliver_of_forall (hacc : ∀ s p, (onPacket s p).2 = true) (w : Deliveries σ)
    (ps : List TSPacket) :
    (deliver onPacket w ps).2 = true ∧ (deliver onPacket w ps).1.packets = w.packets ++ ps := by
  simp [deliver, Offer.offer_accepted_of_forall onPacket hacc, Offer.offer_of_forall onPacket hacc]

/-- What is owed for some bytes comes first in what is owed for more. -/
theorem frames_append {f : PacketFramer} (hf : f.Good) (data e : List UInt8) :
    ∃ more, f.frames (data ++ e) = f.frames data ++ more := by
  -- run the framer with a handler that accepts everything
  obtain ⟨out, -, hspec⟩ := feed_spec (fun (_ : Unit) _ => ((), true)) hf data ⟨(), []⟩
  cases hspec with
  | accepted f' _ _ _ hfr _ => exact ⟨_, hfr e⟩
  | refused f' _ _ href =>
    rw [(deliver_of_forall (fun _ _ => rfl) _ _).1] at href
    cases href
  | noSync f' _ _ hfr =>
    have hnil := hfr []
    rw [List.append_nil] at hnil
    exact ⟨[], by rw [hfr, hnil]; rfl⟩

/-- One chunk accepted, before the chunks after it. -/
theorem FeedSpec.of_chunk {f f' : PacketFramer} {chunk data : List UInt8} {w : Deliveries σ}
    {out : FeedOutcome σ} (hflag : f'.initialSyncFailed = f.initialSyncFailed)
    (hacc : (deliver onPacket w (f.frames chunk)).2 = true)
    (hfr : ∀ e, f.frames (chunk ++ e) = f.frames chunk ++ f'.frames e)
    (hm : f'.mode = .initialSync ↔ f.mode = .initialSync ∧ f.frames chunk = [])
    (h : FeedSpec onPacket f' data (deliver onPacket w (f.frames chunk)).1 out) :
    FeedSpec onPacket f (chunk ++ data) w out :=
  .of_turn hflag hacc (fun e => by rw [List.append_assoc, hfr]) hm h

/-- **Chunks.**  Feeding chunks does what one `Feed` of all their bytes does. -/
theorem feedChunks_spec (onPacket : PacketHandler σ) {f : PacketFramer} (hf : f.Good)
    (chunks : List (List UInt8)) (w : Deliveries σ) :
    ∃ out, feedChunks onPacket f chunks w = .ok out ∧ FeedSpec onPacket f chunks.flatten w out := by
  induction chunks generalizing f w with
  | nil => exact ⟨_, rfl, .of_nil hf w⟩
  | cons chunk chunks ih =>
    obtain ⟨out, hout, hspec⟩ := feed_spec onPacket hf chunk w
    rw [feedChunks, hout, List.flatten_cons]
    cases hspec with
    | accepted f' hgood hflag hacc hfr hm =>
      obtain ⟨out', hout', hspec'⟩ := ih hgood (deliver onPacket w (f.frames chunk)).1
      exact ⟨out', hout', .of_chunk hflag hacc hfr hm hspec'⟩
    | refused f' hgood hflag href =>
      refine ⟨_, rfl, ?_⟩
      -- what the first chunk owes comes first in what all the bytes owe
      obtain ⟨more, hmore⟩ := frames_append hf chunk chunks.flatten
      have hdel : deliver onPacket w (f.frames (chunk ++ chunks.flatten)) =
          deliver onPacket w (f.frames chunk) := by
        rw [hmore, deliver_append_of_refused onPacket _ _ _ href]
      rw [← hdel] at href ⊢
      exact .refused f' hgood hflag href
    | noSync f' hff hm hfr =>
      exact ⟨_, rfl, .noSync f' hff hm fun e => by rw [List.append_assoc, hfr]⟩

/-! ## Reading to the end -/

/-- Reads that are all accepted, and then on with what the reader answers next. -/
theorem feedUntilEof_of_ok {f : PacketFramer} {reads : List (List UInt8)} {w : Deliveries σ}
    (hne : ∀ r ∈ reads, r ≠ []) {out : FeedOutcome σ} (hout : feedChunks onPacket f reads w = .ok out)
    (hok : out.ok = true) (next : ByteReader) :
    feedUntilEof onPacket f (reads.map .bytes ++ next) w = feedUntilEof onPacket out.framer next out.world := by
  induction reads generalizing f w with
  | nil =>
    cases hout
    rfl
  | cons r reads ih =>
    obtain ⟨b, data, rfl⟩ := List.exists_cons_of_ne_nil (hne r List.mem_cons_self)
    rw [feedChunks] at hout
    simp only [List.map_cons, List.cons_append, feedUntilEof]
    cases hfeed : feed onPacket f (b :: data) w with
    | error e =>
      rw [hfeed] at hout
      cases hout
    | ok o =>
      rw [hfeed] at hout
      simp only at hout ⊢
      split at hout
      · next haccepted =>
        rw [if_pos haccepted]
        exact ih (fun r hr => hne r (List.mem_cons_of_mem _ hr)) hout
      · next hstopped =>
        cases hout
        exact absurd hok hstopped

/-- Reads up to one whose `Feed` returns false: it is the last one asked for. -/
theorem feedUntilEof_of_stop {f : PacketFramer} {reads : List (List UInt8)} {w : Deliveries σ}
    (hne : ∀ r ∈ reads, r ≠ []) {out : FeedOutcome σ} (hout : feedChunks onPacket f reads w = .ok out)
    (hstop : out.ok = false) (next : ByteReader) :
    ∃ asked data unasked o, reads = asked ++ data :: unasked ∧ feedChunks onPacket f asked w = .ok o ∧ o.ok = true ∧
      feed onPacket o.framer data o.world = .ok out ∧
      feedUntilEof onPacket f (reads.map .bytes ++ next) w =
        .ok ⟨out.framer, out.world, unasked.map .bytes ++ next, false⟩ := by
  induction reads generalizing f w with
  | nil =>
    cases hout
    cases hstop
  | cons r reads ih =>
    obtain ⟨b, data, rfl⟩ := List.exists_cons_of_ne_nil (hne r List.mem_cons_self)
    rw [feedChunks] at hout
    cases hfeed : feed onPacket f (b :: data) w with
    | error e =>
      rw [hfeed] at hout
      cases hout
    | ok o =>
      rw [hfeed] at hout
      simp only at hout
      split at hout
      · next haccepted =>
        obtain ⟨asked, last, unasked, o', rfl, ho', hok', hlast, hread⟩ :=
          ih (fun r hr => hne r (List.mem_cons_of_mem _ hr)) hout
        refine ⟨(b :: data) :: asked, last, unasked, o', rfl, ?_, hok', hlast, ?_⟩
        · rw [feedChunks, hfeed]
          simp only [haccepted, if_true]
          exact ho'
        · rw [List.map_cons, List.cons_append, feedUntilEof, hfeed]
          simp only [haccepted, if_true]
          exact hread
      · next hstopped =>
        cases hout
        refine ⟨[], b :: data, reads, ⟨f, w, true⟩, rfl, rfl, rfl, hfeed, ?_⟩
        rw [List.map_cons, List.cons_append, feedUntilEof, hfeed]
        simp only [hstopped, if_false, Bool.false_eq_true]

/-- Reading to the end is feeding the reads as chunks and then the end of the input. -/
theorem feedUntilEof_readerOf (f : PacketFramer) (reads : List (List UInt8)) (w : Deliveries σ)
    (hne : ∀ r ∈ reads, r ≠ []) {out : FeedOutcome σ} (hout : feedChunks onPacket f reads w = .ok out) :
    ∃ unread, feedUntilEof onPacket f (readerOf reads) w =
      .ok (if out.ok then ⟨out.framer.finishAtEof, out.world, unread, !out.framer.finishAtEof.initialSyncFailed⟩
        else ⟨out.framer, out.world, unread, false⟩) := by
  cases hok : out.ok with
  | true => exact ⟨[], feedUntilEof_of_ok hne hout hok _⟩
  | false =>
    obtain ⟨asked, data, unasked, o, -, -, -, -, hread⟩ := feedUntilEof_of_stop hne hout hok [.bytes []]
    exact ⟨_, hread⟩

/-- **A whole read.**  With a handler that accepts everything, the packets, the result and the flag
of a read to the end are functions of the bytes. -/
theorem feedUntilEof_spec (hacc : ∀ s p, (onPacket s p).2 = true) (reads : List (List UInt8))
    (hne : ∀ r ∈ reads, r ≠ []) (w : Deliveries σ) :
    ∃ out, feedUntilEof onPacket {} (readerOf reads) w = .ok out ∧
      out.world = (deliver onPacket w (PacketFramer.frames {} reads.flatten)).1 ∧
      out.ok = !(PacketFramer.frames {} reads.flatten).isEmpty ∧
      out.framer.hasInitialSyncFailed = (PacketFramer.frames {} reads.flatten).isEmpty := by
  obtain ⟨out, hout, hspec⟩ := feedChunks_spec onPacket good_fresh reads w
  obtain ⟨unread, hread⟩ := feedUntilEof_readerOf {} reads w hne hout
  refine ⟨_, hread, ?_⟩
  cases hspec with
  | accepted f' _ hflag _ _ hm =>
    rw [if_pos rfl]
    have heof : f'.finishAtEof.initialSyncFailed = (PacketFramer.frames {} reads.flatten).isEmpty := by
      unfold PacketFramer.finishAtEof
      split
      · next hmode =>
        rw [(hm.mp hmode).2]
        rfl
      · next hmode =>
        have hne' : PacketFramer.frames {} reads.flatten ≠ [] := fun h => hmode (hm.mpr ⟨rfl, h⟩)
        rw [hflag]
        symm
        rw [Bool.eq_false_iff, ne_eq, List.isEmpty_iff]
        exact hne'
    exact ⟨rfl, by simp only [heof], heof⟩
  | refused f' _ _ href =>
    rw [(deliver_of_forall hacc _ _).1] at href
    cases href
  | noSync f' hff _ hfr =>
    have hnil := hfr []
    rw [List.append_nil] at hnil
    rw [if_neg (by simp), hnil, deliver_nil]
    exact ⟨rfl, rfl, hff.failed⟩

/-! ## Top theorem -/

/-- **Chunking does not change what is delivered.**  From every state reached by feeds that returned
true, feeding the chunks of a byte string delivers what one feed of it delivers; and two readers of the
same bytes give the same packets, result and flag. -/
theorem feedChunks_eq_feed (onPacket : PacketHandler σ) (hacc : ∀ s p, (onPacket s p).2 = true) :
    (∀ (f : PacketFramer), Reachable f → ∀ (b : List UInt8) (chunks : List (List UInt8)),
      chunks.flatten = b → ∀ (w : Deliveries σ),
      ∃ out out', feedChunks onPacket f chunks w = .ok out ∧ feed onPacket f b w = .ok out' ∧
        out.world = out'.world) ∧
    (∀ (reads reads' : List (List UInt8)), (∀ r ∈ reads, r ≠ []) → (∀ r ∈ reads', r ≠ []) →
      reads.flatten = reads'.flatten → ∀ (w : Deliveries σ),
      ∃ out out', feedUntilEof onPacket {} (readerOf reads) w = .ok out ∧
        feedUntilEof onPacket {} (readerOf reads') w = .ok out' ∧
        out.world = out'.world ∧ out.ok = out'.ok ∧
        out.framer.hasInitialSyncFailed = out'.framer.hasInitialSyncFailed) := by
  constructor
  · rintro f hf b chunks rfl w
    obtain ⟨out, hout, hspec⟩ := feedChunks_spec onPacket hf.good chunks w
    obtain ⟨out', hout', hspec'⟩ := feed_spec onPacket hf.good chunks.flatten w
    exact ⟨out, out', hout, hout', hspec.world_eq.trans hspec'.world_eq.symm⟩
  · intro reads reads' hne hne' hflat w
    obtain ⟨out, hout, hw, hok, hflag⟩ := feedUntilEof_spec hacc reads hne w
    obtain ⟨out', hout', hw', hok', hflag'⟩ := feedUntilEof_spec hacc reads' hne' w
    rw [← hflat] at hw' hok' hflag'
    exact ⟨out, out', hout, hout', hw.trans hw'.symm, hok.trans hok'.symm, hflag.trans hflag'.symm⟩

/-- A sync byte and 751 more bytes of one packet run, in two ways. -/
def fourPackets : List UInt8 := (List.replicate 4 (SYNC_BYTE :: List.replicate 187 0)).flatten

theorem feedChunks_eq_feed_fourPackets :
    (∃ out out', feedChunks (fun (_ : Unit) _ => ((), true)) {} [fourPackets.take 300, [], fourPackets.drop 300]
        ⟨(), []⟩ = .ok out ∧
      feed (fun (_ : Unit) _ => ((), true)) {} fourPackets ⟨(), []⟩ = .ok out' ∧ out.world = out'.world) ∧
    (∃ out out', feedUntilEof (fun (_ : Unit) _ => ((), true)) {}
        (readerOf [fourPackets.take 300, fourPackets.drop 300]) ⟨(), []⟩ = .ok out ∧
      feedUntilEof (fun (_ : Unit) _ => ((), true)) {} (readerOf [fourPackets]) ⟨(), []⟩ = .ok out' ∧
      out.world = out'.world ∧ out.ok = out'.ok ∧
      out.framer.hasInitialSyncFailed = out'.framer.hasInitialSyncFailed) := by
  have hcut : [fourPackets.take 300, fourPackets.drop 300].flatten = fourPackets := by simp
  obtain ⟨h1, h2⟩ := feedChunks_eq_feed (fun (_ : Unit) _ => ((), true)) (fun _ _ => rfl)
  exact ⟨h1 {} .fresh fourPackets _ (by simp) ⟨(), []⟩,
    h2 _ [fourPackets] (by decide +kernel) (by decide +kernel) (by rw [hcut]; simp) ⟨(), []⟩⟩

end

end AribcapDump
