import AribcapDump.Clock.History
import AribcapDump.Clock.Shift

/-!
# Conversion on unwrapped time

With a reference point `(pcr, u)` a PTS is `x` ticks after `pcr` for exactly one
`x` of at most half a turn of the 33-bit counter, and converts to `u` plus
`x / 90` milliseconds, truncated toward zero.

    ptsToUnixMs ((pcr + x) mod 2^33) = some (u + x / 90)      -2^32 < x ≤ 2^32

* `inRange_clock`: every reachable clock keeps its PCRs in 33 bits.
* `ptsToUnixMs_unwrapped`: the conversion, its error, its order and its domain, in 64-bit arithmetic.
-/

namespace AribcapDump

/-! ## 64-bit arithmetic -/

/-- The value of a signed 64-bit operation, `none` where it overflows. -/
def int64? (x : Int) : Option Int :=
  if -0x8000000000000000 ≤ x ∧ x < 0x8000000000000000 then some x else none

theorem int64?_eq {x : Int} (hlow : -0x8000000000000000 ≤ x) (hhigh : x < 0x8000000000000000) :
    int64? x = some x :=
  if_pos ⟨hlow, hhigh⟩

/-! ## Steps of at most half a turn -/

/-- At most half a turn of the 33-bit counter. -/
structure InWindow (x : Int) : Prop where
  lower : -0x100000000 < x
  upper : x ≤ 0x100000000

theorem inWindow_iff (x : Int) : InWindow x ↔ Wrap.HalfTurn PTS_DTS_SCALE x := by
  unfold PTS_DTS_SCALE
  constructor
  · rintro ⟨hlower, hupper⟩
    constructor <;> omega
  · rintro ⟨hlower, hupper⟩
    constructor <;> omega

/-- The PTS `x` ticks after the reference. -/
def ReferencePoint.ptsAt (r : ReferencePoint) (x : Int) : ℕ := ((r.pcr90k + x) % PTS_DTS_SCALE).toNat

theorem ReferencePoint.ptsAt_cast (r : ReferencePoint) (x : Int) :
    (r.ptsAt x : Int) = Wrap.shift PTS_DTS_SCALE x r.pcr90k :=
  Int.toNat_of_nonneg (Wrap.shift_nonneg (by decide) x r.pcr90k)

theorem ReferencePoint.has33Bits_ptsAt (r : ReferencePoint) (x : Int) : Has33Bits (r.ptsAt x) := by
  rw [ptsAt_cast]
  exact has33Bits_shift x r.pcr90k

/-- The scale factors are 1000 and 90000: ninety ticks a millisecond. -/
theorem offsetMs_eq (x : Int) : Int.tdiv (x * kMillisPerSecond) kPtsTicksPerSecond = Int.tdiv x 90 := by
  show Int.tdiv (x * 1000) (90 * 1000) = Int.tdiv x 90
  exact Int.mul_tdiv_mul_of_pos_left x 90 (by decide)

theorem tdiv90_eq (x : Int) : Int.tdiv x 90 = if 0 ≤ x then x / 90 else -(-x / 90) := by
  split
  · next hpos => exact Int.tdiv_eq_ediv_of_nonneg hpos
  · next hneg => rw [← Int.tdiv_eq_ediv_of_nonneg (by omega), Int.neg_tdiv, Int.neg_neg]

section
variable [TSDuck]

/-- Every reachable clock keeps its PCRs in 33 bits. -/
theorem inRange_clock (h : History) : (clock h).InRange := by
  have hfresh : ({} : ProgramClock).InRange := ⟨fun x hx => (by cases hx), fun r hr => (by cases hr)⟩
  exact Machine.run_invariant ProgramClock.step (fun _ call hc => hc.step call) hfresh h.reverse

/-- `WrapAwareDelta90k` in 64-bit arithmetic. -/
def wrapAwareDelta90k64 (fromPts toPts : Int) : Option Int :=
  (int64? (TSDuck.diffPTS (toUInt64 fromPts) (toUInt64 toPts))).bind fun forward =>
  (int64? (TSDuck.diffPTS (toUInt64 toPts) (toUInt64 fromPts))).bind fun backward =>
  if forward ≤ backward then some forward else int64? (-backward)

/-- The conversion through a reference point in 64-bit arithmetic. -/
def ReferencePoint.convert64 (r : ReferencePoint) (pts90k : ℕ) : Option Int :=
  (int64? pts90k).bind fun toPts =>
  (wrapAwareDelta90k64 r.pcr90k toPts).bind fun delta90k =>
  (int64? (delta90k * kMillisPerSecond)).bind fun scaled =>
  (int64? (Int.tdiv scaled kPtsTicksPerSecond)).bind fun offsetMs =>
  int64? (r.unixMs + offsetMs)

/-- The code's difference is the step taken. -/
theorem wrapAwareDelta90k_ptsAt (hdiff : DiffPTSSpec) {r : ReferencePoint} (hpcr : Has33Bits r.pcr90k) {x : Int}
    (hx : InWindow x) : wrapAwareDelta90k r.pcr90k (r.ptsAt x) = x := by
  rw [wrapAwareDelta90k_eq_nearest hdiff hpcr (r.has33Bits_ptsAt x), r.ptsAt_cast]
  exact Wrap.nearest_self_shift ((inWindow_iff x).mp hx) r.pcr90k

theorem ReferencePoint.convert_ptsAt (hdiff : DiffPTSSpec) {r : ReferencePoint} (hpcr : Has33Bits r.pcr90k) {x : Int}
    (hx : InWindow x) : r.convert (r.ptsAt x) = r.unixMs + Int.tdiv x 90 := by
  unfold convert
  rw [wrapAwareDelta90k_ptsAt hdiff hpcr hx, offsetMs_eq]

/-- No operation of the difference overflows. -/
theorem wrapAwareDelta90k64_eq (hdiff : DiffPTSSpec) {a b : Int} (ha : Has33Bits a) (hb : Has33Bits b) :
    wrapAwareDelta90k64 a b = some (wrapAwareDelta90k a b) := by
  have hsmall : ∀ x y : Int, Has33Bits x → Has33Bits y →
      TSDuck.diffPTS (toUInt64 x) (toUInt64 y) < PTS_DTS_SCALE := by
    intro x y hx hy
    unfold Has33Bits PTS_DTS_SCALE at hx hy
    rw [hdiff _ _ (by unfold toUInt64 PTS_DTS_SCALE; omega) (by unfold toUInt64 PTS_DTS_SCALE; omega)]
    exact Nat.mod_lt _ (by decide)
  have hforward := hsmall a b ha hb
  have hbackward := hsmall b a hb ha
  unfold PTS_DTS_SCALE at hforward hbackward
  unfold wrapAwareDelta90k64 wrapAwareDelta90k
  rw [int64?_eq (by omega) (by omega), Option.bind_some, int64?_eq (by omega) (by omega), Option.bind_some]
  simp only [Int.ofNat_le]
  split
  · rfl
  · exact int64?_eq (by omega) (by omega)

theorem ReferencePoint.convert64_ptsAt (hdiff : DiffPTSSpec) {r : ReferencePoint} (hpcr : Has33Bits r.pcr90k)
    (hlow : 0 ≤ r.unixMs) (hhigh : r.unixMs < 0x4000000000000000) {x : Int} (hx : InWindow x) :
    r.convert64 (r.ptsAt x) = some (r.convert (r.ptsAt x)) := by
  have hbits := r.has33Bits_ptsAt x
  have hcast : int64? (r.ptsAt x) = some (r.ptsAt x : Int) := by
    unfold Has33Bits PTS_DTS_SCALE at hbits
    exact int64?_eq (by omega) (by omega)
  obtain ⟨hlower, hupper⟩ := hx
  have hscaled : int64? (x * kMillisPerSecond) = some (x * kMillisPerSecond) := by
    unfold kMillisPerSecond
    exact int64?_eq (by omega) (by omega)
  have hoffset : -0x100000000 ≤ Int.tdiv x 90 ∧ Int.tdiv x 90 ≤ 0x100000000 := by
    rw [tdiv90_eq]
    omega
  rw [r.convert_ptsAt hdiff hpcr ⟨hlower, hupper⟩]
  unfold convert64
  rw [hcast, Option.bind_some, wrapAwareDelta90k64_eq hdiff hpcr hbits, Option.bind_some,
    wrapAwareDelta90k_ptsAt hdiff hpcr ⟨hlower, hupper⟩, hscaled, Option.bind_some, offsetMs_eq,
    int64?_eq (by omega) (by omega), Option.bind_some, int64?_eq (by omega) (by omega)]

/-! ## Top theorem -/

theorem ptsToUnixMs_eq_convert {c : ProgramClock} {r : ReferencePoint} (href : c.referencePoint = some r)
    (hsuspect : c.suspectPcrCount = 0) {pts90k : ℕ} (hpts : pts90k < PTS_DTS_SCALE) :
    c.ptsToUnixMs pts90k = some (r.convert pts90k) := by
  have hmax : ¬ MAX_PTS_DTS < pts90k := Nat.not_lt.mpr (Nat.le_pred_of_lt hpts)
  unfold ProgramClock.ptsToUnixMs
  rw [href]
  simp only [hsuspect, hmax, or_self, Nat.lt_irrefl, if_false, ReferencePoint.convert]

/-- **Conversion on unwrapped time.**  A PTS `x` ticks after the reference, at most half a turn away, converts to
the reference's time plus `x / 90` truncated toward zero, and no 64-bit operation overflows.  So the result is
less than a millisecond (90 ticks) off, grows with `x`, and every PTS is such a step from the reference. -/
theorem ptsToUnixMs_unwrapped (hdiff : DiffPTSSpec) {c : ProgramClock} (hc : c.InRange) {r : ReferencePoint}
    (href : c.referencePoint = some r) (hsuspect : c.suspectPcrCount = 0) (hlow : 0 ≤ r.unixMs)
    (hhigh : r.unixMs < 0x4000000000000000) :
    (∀ x, InWindow x →
      c.ptsToUnixMs (r.ptsAt x) = some (r.unixMs + Int.tdiv x 90) ∧
        r.convert64 (r.ptsAt x) = some (r.unixMs + Int.tdiv x 90)) ∧
    (∀ x unixMs, InWindow x → c.ptsToUnixMs (r.ptsAt x) = some unixMs →
      (90 * unixMs - (90 * r.unixMs + x)).natAbs < 90) ∧
    (∀ x y unixMs unixMs', InWindow x → InWindow y → x ≤ y → c.ptsToUnixMs (r.ptsAt x) = some unixMs →
      c.ptsToUnixMs (r.ptsAt y) = some unixMs' → unixMs ≤ unixMs') ∧
    (∀ pts90k < PTS_DTS_SCALE, ∃ x, (InWindow x ∧ r.ptsAt x = pts90k) ∧
      ∀ y, InWindow y ∧ r.ptsAt y = pts90k → y = x) := by
  have hpcr : Has33Bits r.pcr90k := hc.reference r href
  have hvalue : ∀ x, InWindow x → c.ptsToUnixMs (r.ptsAt x) = some (r.unixMs + Int.tdiv x 90) := by
    intro x hx
    have hpts : r.ptsAt x < PTS_DTS_SCALE := Int.ofNat_lt.mp (r.has33Bits_ptsAt x).2
    rw [ptsToUnixMs_eq_convert href hsuspect hpts, r.convert_ptsAt hdiff hpcr hx]
  refine ⟨?_, ?_, ?_, ?_⟩
  · intro x hx
    refine ⟨hvalue x hx, ?_⟩
    rw [r.convert64_ptsAt hdiff hpcr hlow hhigh hx, r.convert_ptsAt hdiff hpcr hx]
  · intro x unixMs hx hx'
    rw [hvalue x hx] at hx'
    cases hx'
    rw [tdiv90_eq]
    omega
  · intro x y unixMs unixMs' hx hy hxy hx' hy'
    rw [hvalue x hx] at hx'
    rw [hvalue y hy] at hy'
    cases hx'
    cases hy'
    have hmono : Int.tdiv x 90 ≤ Int.tdiv y 90 := by
      rw [tdiv90_eq, tdiv90_eq]
      omega
    omega
  · intro pts90k hpts
    have hcast : ∀ x, r.ptsAt x = pts90k ↔ Wrap.shift PTS_DTS_SCALE x r.pcr90k = pts90k := by
      intro x
      rw [← r.ptsAt_cast, Int.ofNat_inj]
    simp only [inWindow_iff, hcast]
    exact Wrap.existsUnique_halfTurn r.pcr90k (Int.natCast_nonneg _) (Int.ofNat_lt.mpr hpts)

end

/-- A clock 10 s before the wrap. -/
def clockBeforeWrap : ProgramClock where
  pcrPid := some 0x100
  lastPcr90k := some 8589034592
  referencePoint := some ⟨8589034592, 1577804400000⟩

theorem ptsToUnixMs_unwrapped_beforeWrap :
    @ProgramClock.ptsToUnixMs TSDuck.documented clockBeforeWrap 0 = some 1577804410000 :=
  have hc : clockBeforeWrap.InRange :=
    ⟨fun x hx => (by cases hx; exact ⟨by decide, by decide⟩), fun r hr => (by cases hr; exact ⟨by decide, by decide⟩)⟩
  ((@ptsToUnixMs_unwrapped TSDuck.documented diffPTSSpec_documented clockBeforeWrap hc
    ⟨8589034592, 1577804400000⟩ rfl rfl (by decide) (by decide)).1 900000 ⟨by decide, by decide⟩).1

end AribcapDump
