import AribcapDump.Framer.Status

/-!
# The status from the bytes

What a reader answers comes down to the bytes before its end and the kind of the
end.  The packets of a read, and whether it succeeds, are read off these.

* `readAndFramePackets_verdict`: packets, handler and status of a read, for every reader and handler.
-/

namespace AribcapDump

/-- The bytes a reader answers before its end, and which end it is. -/
def received : ByteReader → List UInt8 × InputEnd
  | [] => ([], .eof)
  | .error :: _ => ([], .error)
  | .bytes [] :: _ => ([], .eof)
  | .bytes (b :: data) :: reader => (b :: data ++ (received reader).1, (received reader).2)

theorem received_bytes {data : List UInt8} (hne : data ≠ []) (reader : ByteReader) :
    received (.bytes data :: reader) = (data ++ (received reader).1, (received reader).2) := by
  cases data with
  | nil => exact absurd rfl hne
  | cons b data => rfl

/-- No bytes that follow can confirm the initial sync. -/
def SyncExcluded (b : List UInt8) : Prop := ∀ e, ¬ SyncConfirmed (b ++ e)

/-- The status of a read of `b` up to `inputEnd`, where the handler did or did not accept every packet.  At a read error
an excluded sync may have been noticed or not. -/
inductive Verdict (b : List UInt8) : InputEnd → Bool → ReadFrameStatus → Prop
  | ok : SyncConfirmed b → Verdict b .eof true .ok
  | noSync : ¬ SyncConfirmed b → Verdict b .eof true .noSync
  | excluded : SyncExcluded b → Verdict b .error true .noSync
  | failed : Verdict b .error true .failed
  | refused (inputEnd : InputEnd) : Verdict b inputEnd false .failed

/-- The reader is at its end. -/
inductive AtEnd : ByteReader → InputEnd → Prop
  | exhausted : AtEnd [] .eof
  | eof (rest : ByteReader) : AtEnd (.bytes [] :: rest) .eof
  | error (rest : ByteReader) : AtEnd (.error :: rest) .error

/-- The reads before the end, and what the reader answers from then on. -/
theorem exists_reads (reader : ByteReader) :
    ∃ (reads : List (List UInt8)) (next : ByteReader), reader = reads.map .bytes ++ next ∧ (∀ r ∈ reads, r ≠ []) ∧
      reads.flatten = (received reader).1 ∧ AtEnd next (received reader).2 := by
  induction reader with
  | nil => exact ⟨[], [], rfl, by simp, rfl, .exhausted⟩
  | cons answer reader ih =>
    cases answer with
    | error => exact ⟨[], .error :: reader, rfl, by simp, rfl, .error reader⟩
    | bytes data =>
      cases data with
      | nil => exact ⟨[], .bytes [] :: reader, rfl, by simp, rfl, .eof reader⟩
      | cons b data =>
        obtain ⟨reads, next, rfl, hne, hflat, hend⟩ := ih
        refine ⟨(b :: data) :: reads, next, rfl, ?_, ?_, hend⟩
        · simpa using hne
        · rw [List.flatten_cons, hflat, received]

section
variable {σ : Type} (onPacket : PacketHandler σ)

theorem finishAtEof_failed {f : PacketFramer} (hunfailed : f.initialSyncFailed = false) :
    f.finishAtEof.initialSyncFailed = decide (f.mode = .initialSync) := by
  unfold PacketFramer.finishAtEof
  split
  · next hmode => simp [hmode]
  · next hmode => simp [hmode, hunfailed]

/-- A framer that is told of the end, by the bytes it was fed. -/
theorem feedUntilEof_atEnd {f : PacketFramer} {next : ByteReader} {inputEnd : InputEnd} (hend : AtEnd next inputEnd)
    (hunfailed : f.initialSyncFailed = false) {b : List UInt8} (hm : f.mode = .initialSync ↔ ¬ SyncConfirmed b)
    (w : Deliveries σ) :
    ∃ out, feedUntilEof onPacket f next w = .ok out ∧ out.world = w ∧ Verdict b inputEnd true (statusOf out) := by
  have heof : Verdict b .eof true
      (if f.finishAtEof.initialSyncFailed then .noSync else if !f.finishAtEof.initialSyncFailed then .ok else .failed) := by
    rw [finishAtEof_failed hunfailed]
    by_cases hmode : f.mode = .initialSync
    · simpa [hmode] using Verdict.noSync (hm.mp hmode)
    · simpa [hmode] using Verdict.ok (not_not.mp fun hsync => hmode (hm.mpr hsync))
  cases hend with
  | exhausted => exact ⟨_, rfl, rfl, heof⟩
  | eof rest => exact ⟨_, rfl, rfl, heof⟩
  | error rest =>
    refine ⟨_, rfl, rfl, ?_⟩
    simpa [statusOf, PacketFramer.hasInitialSyncFailed, hunfailed] using Verdict.failed

/-- **The verdict on a read**: for every reader and every handler, what is delivered, how the handler is left and
whether the read succeeds follow from the bytes received and the end of the input. -/
theorem readAndFramePackets_verdict (s : σ) (reader : ByteReader) :
    ∃ status, readAndFramePackets onPacket reader s =
        .ok (status, (deliver onPacket ⟨s, []⟩ (PacketFramer.frames {} (received reader).1)).1) ∧
      Verdict (received reader).1 (received reader).2
        (deliver onPacket ⟨s, []⟩ (PacketFramer.frames {} (received reader).1)).2 status := by
  obtain ⟨reads, next, hreader, hne, hflat, hend⟩ := exists_reads reader
  obtain ⟨o, ho, hspec⟩ := feedChunks_spec onPacket good_fresh reads ⟨s, []⟩
  have hread : ∃ out, feedUntilEof onPacket {} reader ⟨s, []⟩ = .ok out ∧
      out.world = (deliver onPacket ⟨s, []⟩ (PacketFramer.frames {} (received reader).1)).1 ∧
      Verdict (received reader).1 (received reader).2
        (deliver onPacket ⟨s, []⟩ (PacketFramer.frames {} (received reader).1)).2 (statusOf out) := by
    rw [← hflat]
    cases hspec with
    | accepted f' _ hflag hacc _ hm =>
      have hmode : f'.mode = .initialSync ↔ ¬ SyncConfirmed reads.flatten := by
        rw [← frames_fresh_eq_nil_iff]
        exact hm.trans (and_iff_right rfl)
      obtain ⟨out, hout, hworld, hverdict⟩ := feedUntilEof_atEnd onPacket hend hflag hmode
        (deliver onPacket ⟨s, []⟩ (PacketFramer.frames {} reads.flatten)).1
      refine ⟨out, ?_, hworld, ?_⟩
      · rw [hreader, feedUntilEof_of_ok hne ho rfl]
        exact hout
      · rwa [hacc]
    | refused f' _ hflag href =>
      obtain ⟨asked, last, unasked, o', -, -, -, -, hstopped⟩ := feedUntilEof_of_stop hne ho rfl next
      refine ⟨_, hreader ▸ hstopped, rfl, ?_⟩
      rw [href]
      simpa [statusOf, PacketFramer.hasInitialSyncFailed, hflag] using Verdict.refused _
    | noSync f' hff _ hfr =>
      obtain ⟨asked, last, unasked, o', -, -, -, -, hstopped⟩ := feedUntilEof_of_stop hne ho rfl next
      have hexcluded : SyncExcluded reads.flatten := fun e => (frames_fresh_eq_nil_iff _).mp (hfr e)
      have hnil : PacketFramer.frames {} reads.flatten = [] := by simpa using hfr []
      refine ⟨_, hreader ▸ hstopped, by rw [hnil, deliver_nil], ?_⟩
      rw [hnil, deliver_nil]
      have hstatus : statusOf ⟨f', ⟨s, []⟩, unasked.map .bytes ++ next, false⟩ = .noSync := by
        simp [statusOf, PacketFramer.hasInitialSyncFailed, hff.failed]
      show Verdict _ _ true (statusOf ⟨f', ⟨s, []⟩, _, false⟩)
      rw [hstatus]
      cases (received reader).2 with
      | eof => exact .noSync (by simpa using hexcluded [])
      | error => exact .excluded hexcluded
  obtain ⟨out, hout, hworld, hverdict⟩ := hread
  exact ⟨statusOf out, hworld ▸ readAndFramePackets_eq hout, hverdict⟩

end

end AribcapDump
