import AribcapDump.Framer.Chunks

/-!
# The status of a whole read

`ReadAndFramePackets` makes its status of one Boolean and one flag, which five
ways to end set or leave alone.  For every way the bytes arrive and every handler
the status says what happened.

    kOk       ↔  end of input reached, sync confirmed, no packet refused
    kNoSync   →  no packet handed over        ←  end of input reached, sync not confirmed
    kFailed   ←  a packet refused, or a read error after sync was confirmed

* `classified_eof`, `classified_error`, `classified_refused`, `classified_noSync`: the ways to end.
* `readAndFramePackets_classified`: the classification.
-/

namespace AribcapDump

/-! ## A read and its status -/

/-- How the input ends. -/
inductive InputEnd
  | eof
  | error
deriving DecidableEq

def InputEnd.answer : InputEnd → ReadResult
  | .eof => .bytes []
  | .error => .error

/-- A reader that answers the given reads and then the end. -/
def readerTo (reads : List (List UInt8)) (inputEnd : InputEnd) : ByteReader := reads.map .bytes ++ [inputEnd.answer]

/-- Four packets in a row start with a sync byte, the first of them below the bound. -/
def SyncConfirmed (b : List UInt8) : Prop := ∃ c, c < PKT_SIZE ∧ isProbe (b.drop c) = true

section
variable {σ : Type} (onPacket : PacketHandler σ)

/-- What the handler answered to the packets handed to it, one by one. -/
def handlerAnswers (s : σ) (w : Deliveries σ) : List Bool := Machine.answers onPacket s w.packets

/-- The status of a read of `reads` up to `inputEnd`, by what happened in it: `out.unread` is what the reader was not
asked for, nothing exactly when its end was reached. -/
structure Classified (s : σ) (reads : List (List UInt8)) (inputEnd : InputEnd) (out : ReadOutcome σ)
    (status : ReadFrameStatus) : Prop where
  ok_iff : status = .ok ↔
    (out.unread = [] ∧ inputEnd = .eof) ∧ SyncConfirmed reads.flatten ∧ false ∉ handlerAnswers onPacket s out.world
  noSync_silent : status = .noSync → out.world.packets = []
  noSync_of_eof : out.unread = [] → inputEnd = .eof → ¬ SyncConfirmed reads.flatten → status = .noSync
  failed_of_refusal : false ∈ handlerAnswers onPacket s out.world → status = .failed
  failed_of_error : out.unread = [] → inputEnd = .error → SyncConfirmed reads.flatten → status = .failed
  /-- The handler is not called after a refusal. -/
  refusal_last : false ∉ (handlerAnswers onPacket s out.world).dropLast
  state_eq : out.world.state = Machine.run onPacket s out.world.packets
  /-- Nor is the reader: the refusal falls in the last read it was asked for. -/
  refusal_lastRead : false ∈ handlerAnswers onPacket s out.world →
    ∃ asked last unasked o, reads = asked ++ last :: unasked ∧ out.unread = unasked.map .bytes ++ [inputEnd.answer] ∧
      feedChunks onPacket {} asked ⟨s, []⟩ = .ok o ∧ o.ok = true ∧ false ∉ handlerAnswers onPacket s o.world

/-! ## What was delivered -/

theorem frames_fresh_eq_nil_iff (b : List UInt8) : PacketFramer.frames {} b = [] ↔ ¬ SyncConfirmed b := by
  have hframes : PacketFramer.frames {} b = initialFrames 0 b := rfl
  rw [hframes, initialFrames_zero_eq_nil_iff]
  unfold SyncConfirmed
  simp

theorem deliver_fresh (s : σ) (packets : List TSPacket) :
    (deliver onPacket ⟨s, []⟩ packets).1.packets = (Offer.offer onPacket s packets).handed := by
  simp [deliver]

theorem refusal_iff (s : σ) (packets : List TSPacket) :
    false ∈ handlerAnswers onPacket s (deliver onPacket ⟨s, []⟩ packets).1 ↔
      (deliver onPacket ⟨s, []⟩ packets).2 = false := by
  unfold handlerAnswers
  rw [deliver_fresh, Offer.false_mem_answers_iff]
  rfl

theorem no_refusal (s : σ) {packets : List TSPacket} (hacc : (deliver onPacket ⟨s, []⟩ packets).2 = true) :
    false ∉ handlerAnswers onPacket s (deliver onPacket ⟨s, []⟩ packets).1 := by
  rw [refusal_iff, hacc]
  decide

theorem refusal_last_deliver (s : σ) (packets : List TSPacket) :
    false ∉ (handlerAnswers onPacket s (deliver onPacket ⟨s, []⟩ packets).1).dropLast := by
  unfold handlerAnswers
  rw [deliver_fresh]
  exact Offer.false_notMem_dropLast onPacket s packets

theorem state_deliver_of_run {s : σ} {w : Deliveries σ} (hw : w.state = Machine.run onPacket s w.packets)
    (packets : List TSPacket) :
    (deliver onPacket w packets).1.state = Machine.run onPacket s (deliver onPacket w packets).1.packets := by
  unfold deliver
  simp only
  rw [Machine.run_append, ← hw, Offer.run_handed]

/-- A refusal is among the answers. -/
theorem refusal_of_deliver {s : σ} {w : Deliveries σ} (hw : w.state = Machine.run onPacket s w.packets)
    {packets : List TSPacket} (href : (deliver onPacket w packets).2 = false) :
    false ∈ handlerAnswers onPacket s (deliver onPacket w packets).1 := by
  unfold handlerAnswers deliver
  simp only
  rw [Machine.answers_append, ← hw, List.mem_append]
  exact .inr ((Offer.false_mem_answers_iff onPacket w.state packets).mpr href)

theorem state_deliver (s : σ) (packets : List TSPacket) :
    (deliver onPacket ⟨s, []⟩ packets).1.state =
      Machine.run onPacket s (deliver onPacket ⟨s, []⟩ packets).1.packets :=
  state_deliver_of_run onPacket rfl packets

/-! ## The ways to end -/

variable {onPacket} {s : σ} {reads : List (List UInt8)} {inputEnd : InputEnd}

/-- The status as `ReadAndFramePackets` computes it. -/
def statusOf (out : ReadOutcome σ) : ReadFrameStatus :=
  if out.framer.hasInitialSyncFailed then .noSync else if out.ok then .ok else .failed

theorem readAndFramePackets_eq {reader : ByteReader} {out : ReadOutcome σ}
    (hout : feedUntilEof onPacket {} reader ⟨s, []⟩ = .ok out) :
    readAndFramePackets onPacket reader s = .ok (statusOf out, out.world) := by
  unfold readAndFramePackets statusOf
  rw [hout]
  simp only
  split
  · rfl
  · split <;> rfl

/-- A read that gets to the end of the input. -/
theorem classified_eof {f : PacketFramer} (hunfailed : f.initialSyncFailed = false)
    (hacc : (deliver onPacket ⟨s, []⟩ (PacketFramer.frames {} reads.flatten)).2 = true)
    (hm : f.mode = .initialSync ↔ PacketFramer.frames {} reads.flatten = []) :
    let out : ReadOutcome σ := ⟨f.finishAtEof, (deliver onPacket ⟨s, []⟩ (PacketFramer.frames {} reads.flatten)).1, [],
      !f.finishAtEof.initialSyncFailed⟩
    Classified onPacket s reads .eof out (statusOf out) := by
  intro out
  have hnever : false ∉ handlerAnswers onPacket s out.world := no_refusal onPacket s hacc
  have hflag : f.finishAtEof.initialSyncFailed = true ↔ ¬ SyncConfirmed reads.flatten := by
    rw [← frames_fresh_eq_nil_iff, ← hm]
    unfold PacketFramer.finishAtEof
    split
    · next hmode => exact iff_of_true rfl hmode
    · next hmode =>
      refine iff_of_false ?_ hmode
      rw [hunfailed]
      exact Bool.false_ne_true
  have hstatus : statusOf out = if f.finishAtEof.initialSyncFailed then .noSync else .ok := by
    unfold statusOf
    show (if f.finishAtEof.initialSyncFailed then _ else _) = _
    cases hfailed : f.finishAtEof.initialSyncFailed
    · simp [out, hfailed]
    · rfl
  rw [hstatus]
  by_cases hsync : SyncConfirmed reads.flatten
  · have hdown : f.finishAtEof.initialSyncFailed = false := by
      rw [Bool.eq_false_iff]
      exact fun hfailed => hflag.mp hfailed hsync
    rw [hdown]
    exact {
      ok_iff := iff_of_true rfl ⟨⟨rfl, rfl⟩, hsync, hnever⟩
      noSync_silent := fun h => (by cases h)
      noSync_of_eof := fun _ _ hnot => absurd hsync hnot
      failed_of_refusal := fun h => absurd h hnever
      failed_of_error := fun _ h => (by cases h)
      refusal_last := refusal_last_deliver onPacket s _
      state_eq := state_deliver onPacket s _
      refusal_lastRead := fun h => absurd h hnever }
  · have hraised : f.finishAtEof.initialSyncFailed = true := hflag.mpr hsync
    have hsilent : out.world.packets = [] := by
      show (deliver onPacket ⟨s, []⟩ _).1.packets = []
      rw [(frames_fresh_eq_nil_iff _).mpr hsync, deliver_nil]
    rw [hraised]
    exact {
      ok_iff := iff_of_false (fun h => (by cases h)) fun h => hsync h.2.1
      noSync_silent := fun _ => hsilent
      noSync_of_eof := fun _ _ _ => rfl
      failed_of_refusal := fun h => absurd h hnever
      failed_of_error := fun _ h => (by cases h)
      refusal_last := refusal_last_deliver onPacket s _
      state_eq := state_deliver onPacket s _
      refusal_lastRead := fun h => absurd h hnever }

/-- A read error: the flag is down. -/
theorem classified_error {f : PacketFramer} (hunfailed : f.initialSyncFailed = false)
    (hacc : (deliver onPacket ⟨s, []⟩ (PacketFramer.frames {} reads.flatten)).2 = true) :
    let out : ReadOutcome σ := ⟨f, (deliver onPacket ⟨s, []⟩ (PacketFramer.frames {} reads.flatten)).1, [], false⟩
    Classified onPacket s reads .error out (statusOf out) := by
  intro out
  have hnever : false ∉ handlerAnswers onPacket s out.world := no_refusal onPacket s hacc
  have hstatus : statusOf out = .failed := by
    unfold statusOf
    simp [out, PacketFramer.hasInitialSyncFailed, hunfailed]
  rw [hstatus]
  exact {
    ok_iff := iff_of_false (fun h => (by cases h)) fun h => (by cases h.1.2)
    noSync_silent := fun h => (by cases h)
    noSync_of_eof := fun _ h => (by cases h)
    failed_of_refusal := fun _ => rfl
    failed_of_error := fun _ _ _ => rfl
    refusal_last := refusal_last_deliver onPacket s _
    state_eq := state_deliver onPacket s _
    refusal_lastRead := fun h => absurd h hnever }

theorem unread_ne_nil (unasked : List (List UInt8)) (inputEnd : InputEnd) :
    unasked.map ReadResult.bytes ++ [inputEnd.answer] ≠ [] := by
  simp

/-- The handler stops the read: the mode may still be that of the initial search, but the flag is down. -/
theorem classified_refused {f : PacketFramer} (hunfailed : f.initialSyncFailed = false)
    (href : (deliver onPacket ⟨s, []⟩ (PacketFramer.frames {} reads.flatten)).2 = false)
    {asked unasked : List (List UInt8)} {last : List UInt8} (hreads : reads = asked ++ last :: unasked)
    {o : FeedOutcome σ} (hasked : feedChunks onPacket {} asked ⟨s, []⟩ = .ok o) (hok : o.ok = true) :
    let out : ReadOutcome σ := ⟨f, (deliver onPacket ⟨s, []⟩ (PacketFramer.frames {} reads.flatten)).1,
      unasked.map .bytes ++ [inputEnd.answer], false⟩
    Classified onPacket s reads inputEnd out (statusOf out) := by
  intro out
  have hunread : out.unread ≠ [] := unread_ne_nil unasked inputEnd
  have hrefused : false ∈ handlerAnswers onPacket s out.world := (refusal_iff onPacket s _).mpr href
  have hbefore : false ∉ handlerAnswers onPacket s o.world := by
    cases spec_of_ok (feedChunks_spec onPacket good_fresh asked ⟨s, []⟩) hasked with
    | accepted f' _ _ hacc _ _ => exact no_refusal onPacket s hacc
    | refused f' _ _ _ => cases hok
    | noSync f' _ _ _ => cases hok
  have hstatus : statusOf out = .failed := by
    unfold statusOf
    simp [out, PacketFramer.hasInitialSyncFailed, hunfailed]
  rw [hstatus]
  exact {
    ok_iff := iff_of_false (fun h => (by cases h)) fun h => hunread h.1.1
    noSync_silent := fun h => (by cases h)
    noSync_of_eof := fun h => absurd h hunread
    failed_of_refusal := fun _ => rfl
    failed_of_error := fun h => absurd h hunread
    refusal_last := refusal_last_deliver onPacket s _
    state_eq := state_deliver onPacket s _
    refusal_lastRead := fun _ => ⟨asked, last, unasked, o, hreads, rfl, hasked, hok, hbefore⟩ }

/-- The initial search leaves its bound. -/
theorem classified_noSync {f : PacketFramer} (hfailed : f.initialSyncFailed = true) (unasked : List (List UInt8)) :
    let out : ReadOutcome σ := ⟨f, ⟨s, []⟩, unasked.map .bytes ++ [inputEnd.answer], false⟩
    Classified onPacket s reads inputEnd out (statusOf out) := by
  intro out
  have hunread : out.unread ≠ [] := unread_ne_nil unasked inputEnd
  have hnever : false ∉ handlerAnswers onPacket s out.world := List.not_mem_nil
  have hstatus : statusOf out = .noSync := by
    unfold statusOf
    simp [out, PacketFramer.hasInitialSyncFailed, hfailed]
  rw [hstatus]
  exact {
    ok_iff := iff_of_false (fun h => (by cases h)) fun h => hunread h.1.1
    noSync_silent := fun _ => rfl
    noSync_of_eof := fun h => absurd h hunread
    failed_of_refusal := fun h => absurd h hnever
    failed_of_error := fun h => absurd h hunread
    refusal_last := List.not_mem_nil
    state_eq := rfl
    refusal_lastRead := fun h => absurd h hnever }

/-! ## Top theorem -/

/-- **The status of a whole read**, for any reads up to the end of the input or a read error, and any handler. -/
theorem readAndFramePackets_classified (onPacket : PacketHandler σ) (s : σ) (reads : List (List UInt8))
    (hne : ∀ r ∈ reads, r ≠ []) (inputEnd : InputEnd) :
    ∃ out status, feedUntilEof onPacket {} (readerTo reads inputEnd) ⟨s, []⟩ = .ok out ∧
      readAndFramePackets onPacket (readerTo reads inputEnd) s = .ok (status, out.world) ∧
      Classified onPacket s reads inputEnd out status := by
  have hread : ∃ out, feedUntilEof onPacket {} (readerTo reads inputEnd) ⟨s, []⟩ = .ok out ∧
      Classified onPacket s reads inputEnd out (statusOf out) := by
    obtain ⟨o, ho, hspec⟩ := feedChunks_spec onPacket good_fresh reads ⟨s, []⟩
    cases hspec with
    | accepted f' _ hflag hacc _ hm =>
      have hall := feedUntilEof_of_ok hne ho rfl [inputEnd.answer]
      cases inputEnd with
      | eof => exact ⟨_, hall, classified_eof hflag hacc (hm.trans (and_iff_right rfl))⟩
      | error => exact ⟨_, hall, classified_error hflag hacc⟩
    | refused f' _ hflag href =>
      obtain ⟨asked, last, unasked, o', hreads, hasked, hok, -, hstopped⟩ :=
        feedUntilEof_of_stop hne ho rfl [inputEnd.answer]
      exact ⟨_, hstopped, classified_refused hflag href hreads hasked hok⟩
    | noSync f' hff _ _ =>
      obtain ⟨asked, last, unasked, o', -, -, -, -, hstopped⟩ := feedUntilEof_of_stop hne ho rfl [inputEnd.answer]
      exact ⟨_, hstopped, classified_noSync hff.failed unasked⟩
  obtain ⟨out, hout, hclassified⟩ := hread
  exact ⟨out, statusOf out, hout, readAndFramePackets_eq hout, hclassified⟩

end

/-- Four packets in two reads, with a handler that refuses the second packet. -/
theorem readAndFramePackets_classified_fourPackets :
    ∃ out status, feedUntilEof (fun (n : Nat) _ => (n + 1, n == 0)) {}
        (readerTo [fourPackets.take 300, fourPackets.drop 300] .eof) ⟨0, []⟩ = .ok out ∧
      readAndFramePackets (fun (n : Nat) _ => (n + 1, n == 0))
        (readerTo [fourPackets.take 300, fourPackets.drop 300] .eof) 0 = .ok (status, out.world) ∧
      Classified (fun (n : Nat) _ => (n + 1, n == 0)) 0 [fourPackets.take 300, fourPackets.drop 300] .eof out status :=
  readAndFramePackets_classified _ 0 _ (by decide +kernel) .eof

end AribcapDump
