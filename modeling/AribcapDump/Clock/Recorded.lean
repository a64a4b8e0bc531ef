import AribcapDump.Clock.History

/-!
# Where the PCR of a reference point was recorded

The PCR a reference point holds was accepted from a packet on the PID that is
still tracked.

* `accepted_recorded`: the last accepted PCR.
* `keptReference_recorded`: the PCR of the reference point.
-/

namespace AribcapDump

theorem trackedPid_cons {h : History} {call : ClockCall} (hkeeps : changesPid h call = false) :
    trackedPid (call :: h) = trackedPid h := by
  cases call with
  | setPcrPid pid =>
    rw [changesPid, Bool.and_eq_false_iff, decide_eq_false_iff_not, decide_eq_false_iff_not, not_not,
      not_not] at hkeeps
    rw [trackedPid]
    split
    · rfl
    · next hpid => exact (hkeeps.resolve_left hpid).symm
  | _ => rfl

theorem samples_cons {h : History} {call : ClockCall} (hcall : ∀ packet, call ≠ .recordPcr packet) :
    samples (call :: h) = if changesPid h call then [] else samples h := by
  cases call with
  | recordPcr packet => exact absurd rfl (hcall packet)
  | _ => rfl

variable [TSDuck]

/-- The packet, recorded after `earlier`, was accepted with the PCR `pcr90k` on the PID `pid` tracked then. -/
structure Recorded (pid : PID) (pcr90k : Int) (packet : PacketView) (earlier : History) : Prop where
  onPid : packet.getPID = pid
  tracked : trackedPid earlier = some pid
  hasPCR : packet.hasPCR = true
  valid : packet.getPCR ≤ MAX_PCR
  value : pcr90k = Int.tdiv packet.getPCR kPcrTicksPerPtsTick
  accepted : accepted (.recordPcr packet :: earlier) = some pcr90k

/-- **The last accepted PCR** was recorded on the PID tracked now. -/
theorem accepted_recorded {h : History} {pcr90k : Int} (haccepted : accepted h = some pcr90k) :
    ∃ pid later packet earlier, trackedPid h = some pid ∧ h = later ++ .recordPcr packet :: earlier ∧
      Recorded pid pcr90k packet earlier := by
  induction h with
  | nil => cases haccepted
  | cons call h ih =>
    -- in most cases it is the one accepted before this call
    have hearlier : accepted h = some pcr90k → trackedPid (call :: h) = trackedPid h →
        ∃ pid later packet earlier, trackedPid (call :: h) = some pid ∧
          call :: h = later ++ .recordPcr packet :: earlier ∧ Recorded pid pcr90k packet earlier := by
      intro hbefore htracked
      obtain ⟨pid, later, packet, earlier, hpid, rfl, hrecorded⟩ := ih hbefore
      exact ⟨pid, call :: later, packet, earlier, htracked.trans hpid, rfl, hrecorded⟩
    by_cases hcall : ∀ packet, call ≠ .recordPcr packet
    · rw [accepted, samples_cons hcall] at haccepted
      split at haccepted
      · cases haccepted
      · next hkeeps => exact hearlier haccepted (trackedPid_cons (Bool.not_eq_true _ ▸ hkeeps))
    · rw [not_forall] at hcall
      obtain ⟨packet, hpacket⟩ := hcall
      obtain rfl : call = .recordPcr packet := not_not.mp hpacket
      cases hsample : sample? (trackedPid h) packet with
      | none =>
        refine hearlier ?_ rfl
        rw [← haccepted, accepted, accepted, samples, hsample, Option.toList_none, List.nil_append]
      | some s =>
        have hseries : accepted (.recordPcr packet :: h) = (series (s :: samples h)).1 := by
          rw [accepted, samples, hsample, Option.toList_some, List.singleton_append]
        by_cases hheld : (s.outOfSeries (series (samples h)).1 && !(series (samples h)).2) = true
        · refine hearlier ?_ rfl
          rw [← haccepted, hseries, series, if_pos hheld, accepted]
        · have hvalue : s.pcr90k = pcr90k := by
            rw [hseries, series, if_neg hheld] at haccepted
            exact Option.some.inj haccepted
          unfold sample? at hsample
          split at hsample
          · next hcounts =>
            obtain ⟨hpid, hpcr, hmax⟩ := hcounts
            refine ⟨packet.getPID, [], packet, h, hpid, rfl, rfl, hpid, hpcr, hmax, ?_, haccepted⟩
            rw [← hvalue, ← Option.some.inj hsample]
          · cases hsample

/-- **The PCR of the reference point** was recorded on the PID tracked now. -/
theorem keptReference_recorded {h : History} {reference : ReferencePoint}
    (hkept : keptReference h = some reference) :
    ∃ pid later packet earlier, trackedPid h = some pid ∧ h = later ++ .recordPcr packet :: earlier ∧
      Recorded pid reference.pcr90k packet earlier := by
  induction h with
  | nil => cases hkept
  | cons call h ih =>
    rw [keptReference] at hkept
    split at hkept
    · cases hkept
    · next hkeeps =>
      rw [Bool.not_eq_true] at hkeeps
      cases hgiven : given h call with
      | none =>
        rw [hgiven, Option.none_or] at hkept
        obtain ⟨pid, later, packet, earlier, hpid, rfl, hrecorded⟩ := ih hkept
        refine ⟨pid, call :: later, packet, earlier, ?_, rfl, hrecorded⟩
        cases call with
        | setPcrPid pid' =>
          have hsame : changesPid (later ++ .recordPcr packet :: earlier) (.setPcrPid pid') = false := hkeeps
          exact (trackedPid_cons hsame).trans hpid
        | _ => exact hpid
      | some given' =>
        cases call with
        | updateReferencePointFromTot tot =>
          rw [hgiven, Option.some_or] at hkept
          cases hkept
          rw [given, totReference] at hgiven
          split at hgiven
          · obtain ⟨unixMs, -, hmap⟩ := Option.bind_eq_some_iff.mp hgiven
            obtain ⟨pcr90k, haccepted, rfl⟩ := Option.map_eq_some_iff.mp hmap
            obtain ⟨pid, later, packet, earlier, hpid, rfl, hrecorded⟩ := accepted_recorded haccepted
            exact ⟨pid, .updateReferencePointFromTot tot :: later, packet, earlier, hpid, rfl, hrecorded⟩
          · cases hgiven
        | _ => cases hgiven

end AribcapDump
