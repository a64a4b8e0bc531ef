import AribcapDump.Clock.ProgramClock

/-!
# Isolated PCR glitches are erased

A single sample out of the series, at once followed by one the clock accepts,
leaves no trace: the run with such glitches gives the answers of the run without
them and ends in the same state.

* `IsolatedGlitch.erased`: one glitch and the call after it.
* `glitches_erased`: any number of them in a run.
-/

namespace AribcapDump

/-! ## Runs with glitches -/

/-- Each call of a run, with the packet inserted right before it, if any. -/
abbrev GlitchedRun := List (Option PacketView × ClockCall)

/-- The calls without the inserted packets. -/
def GlitchedRun.original (r : GlitchedRun) : List ClockCall := r.map Prod.snd

/-- The calls with the inserted packets. -/
def GlitchedRun.calls (r : GlitchedRun) : List ClockCall :=
  r.flatMap fun step => (step.1.map ClockCall.recordPcr).toList ++ [step.2]

/-- Answers to the original calls, with `nullopt` for each inserted packet. -/
def GlitchedRun.answered (r : GlitchedRun) (answers : List ClockAnswer) : List ClockAnswer :=
  (r.zip answers).flatMap fun step => (step.1.1.map fun _ => .discontinuity none).toList ++ [step.2]

section
variable [TSDuck]

/-- In the state `c` the packet is an unflagged sample out of the series (so a PCR has been accepted), no suspect is
pending, and `call` is `RecordPcr` with a sample that is flagged or continues the series. -/
structure IsolatedGlitch (c : ProgramClock) (glitch : PacketView) (call : ClockCall) : Prop where
  suspect : ∃ s, sample? c.pcrPid glitch = some s ∧ s.outOfSeries c.lastPcr90k = true
  nonePending : c.suspectPcrCount = 0
  acceptedNext : ∃ packet s, call = .recordPcr packet ∧ sample? c.pcrPid packet = some s ∧
    s.outOfSeries c.lastPcr90k = false

/-! ## One sample -/

namespace ProgramClock

/-- The first sample out of the series is held as suspect. -/
theorem recordPcr_suspect {c : ProgramClock} {packet : PacketView} {s : Sample}
    (hs : sample? c.pcrPid packet = some s) (hout : s.outOfSeries c.lastPcr90k = true)
    (hcount : c.suspectPcrCount = 0) : c.recordPcr packet = ({ c with suspectPcrCount := 1 }, none) := by
  have hflag : s.flagged = false := by
    rw [Sample.outOfSeries, Bool.and_eq_true] at hout
    simpa using hout.1
  have hnone : ¬ 0 < c.suspectPcrCount := by omega
  rw [recordPcr_of_some hs, hflag, if_neg Bool.false_ne_true, if_pos hout, handleSuspectPcrDiscontinuity_eq,
    if_neg hnone, hcount]

/-- The second confirms a new series. -/
theorem recordPcr_confirm {c : ProgramClock} {packet : PacketView} {s : Sample}
    (hs : sample? c.pcrPid packet = some s) (hout : s.outOfSeries c.lastPcr90k = true)
    (hcount : 0 < c.suspectPcrCount) :
    c.recordPcr packet = (c.adoptNewPcrSeries s.pcr90k, some ⟨packet.getPID, false⟩) := by
  have hflag : s.flagged = false := by
    rw [Sample.outOfSeries, Bool.and_eq_true] at hout
    simpa using hout.1
  rw [recordPcr_of_some hs, hflag, if_neg Bool.false_ne_true, if_pos hout, handleSuspectPcrDiscontinuity_eq,
    if_pos hcount]

/-- An accepted sample ends any suspicion: the suspect count makes no difference to it. -/
theorem recordPcr_accepted {c : ProgramClock} {packet : PacketView} {s : Sample}
    (hs : sample? c.pcrPid packet = some s) (hin : s.outOfSeries c.lastPcr90k = false) :
    c.recordPcr packet =
      (⟨c.pcrPid, some s.pcr90k, if s.flagged then none else c.referencePoint, 0⟩,
        if s.flagged then some ⟨packet.getPID, true⟩ else none) := by
  rw [recordPcr_of_some hs]
  cases hflag : s.flagged with
  | true => rfl
  | false =>
    rw [if_neg Bool.false_ne_true, hin, if_neg Bool.false_ne_true]
    rfl

end ProgramClock

/-! ## Erasing them -/

/-- **One glitch**: it is answered `nullopt`, and after it the next call does what it would have done without it. -/
theorem IsolatedGlitch.erased {c : ProgramClock} {glitch : PacketView} {call : ClockCall}
    (h : IsolatedGlitch c glitch call) :
    (c.recordPcr glitch).2 = none ∧ (c.recordPcr glitch).1.step call = c.step call := by
  obtain ⟨⟨s, hs, hout⟩, hcount, packet, t, rfl, ht, hin⟩ := h
  rw [ProgramClock.recordPcr_suspect hs hout hcount]
  refine ⟨rfl, ?_⟩
  have hsuspected : { c with suspectPcrCount := 1 }.recordPcr packet = _ := ProgramClock.recordPcr_accepted ht hin
  simp only [ProgramClock.step, hsuspected, ProgramClock.recordPcr_accepted ht hin]

/-- **Isolated glitches are erased.**  Inserted before any number of calls, each an isolated glitch where it is
inserted, packets change neither the answers to the original calls nor the state reached, and are themselves
answered `nullopt`. -/
theorem glitches_erased (c : ProgramClock) (r : GlitchedRun)
    (hisolated : ∀ (earlier : GlitchedRun) glitch call later, r = earlier ++ (some glitch, call) :: later →
      IsolatedGlitch (Machine.run ProgramClock.step c earlier.original) glitch call) :
    Machine.answers ProgramClock.step c r.calls = r.answered (Machine.answers ProgramClock.step c r.original) ∧
    Machine.run ProgramClock.step c r.calls = Machine.run ProgramClock.step c r.original := by
  induction r generalizing c with
  | nil => exact ⟨rfl, rfl⟩
  | cons step r ih =>
    obtain ⟨inserted, call⟩ := step
    have htail : ∀ (earlier : GlitchedRun) glitch call' later, r = earlier ++ (some glitch, call') :: later →
        IsolatedGlitch (Machine.run ProgramClock.step (c.step call).1 earlier.original) glitch call' := by
      intro earlier glitch call' later hsplit
      apply hisolated ((inserted, call) :: earlier) glitch call' later
      rw [hsplit, List.cons_append]
    obtain ⟨hanswers, hrun⟩ := ih (c.step call).1 htail
    cases inserted with
    | none =>
      constructor
      · show (c.step call).2 :: Machine.answers ProgramClock.step (c.step call).1 (GlitchedRun.calls r) = _
        rw [hanswers]
        rfl
      · exact hrun
    | some glitch =>
      have hglitch : IsolatedGlitch c glitch call := hisolated [] glitch call r rfl
      obtain ⟨hnone, hnext⟩ := hglitch.erased
      constructor
      · show .discontinuity (c.recordPcr glitch).2 :: ((c.recordPcr glitch).1.step call).2 ::
          Machine.answers ProgramClock.step ((c.recordPcr glitch).1.step call).1 (GlitchedRun.calls r) = _
        rw [hnone, hnext, hanswers]
        rfl
      · show Machine.run ProgramClock.step ((c.recordPcr glitch).1.step call).1 (GlitchedRun.calls r) = _
        rw [hnext]
        exact hrun

end

/-- A PCR 0.1 s after the last, and right before it a packet with one 100 s ahead. -/
def runWithGlitch : GlitchedRun :=
  [(some ⟨true, 0x100, true, 2700000000, false⟩, .recordPcr ⟨true, 0x100, true, 2700000, false⟩)]

theorem glitches_erased_once :
    letI := TSDuck.documented
    Machine.answers ProgramClock.step ⟨some 0x100, some 0, none, 0⟩ runWithGlitch.calls =
      [.discontinuity none, .discontinuity none] ∧
    Machine.run ProgramClock.step ⟨some 0x100, some 0, none, 0⟩ runWithGlitch.calls =
      ⟨some 0x100, some 9000, none, 0⟩ := by
  let := TSDuck.documented
  refine glitches_erased ⟨some 0x100, some 0, none, 0⟩ runWithGlitch ?_
  intro earlier glitch call later hsplit
  have hfirst : earlier = [] := by
    apply List.eq_nil_of_length_eq_zero
    have hlength := congrArg List.length hsplit
    simp only [runWithGlitch, List.length_append, List.length_cons, List.length_nil] at hlength
    omega
  subst hfirst
  cases hsplit
  exact ⟨⟨⟨9000000, false⟩, by decide, by decide⟩, rfl, _, ⟨9000, false⟩, rfl, by decide, by decide⟩

end AribcapDump
