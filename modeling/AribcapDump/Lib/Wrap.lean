import Mathlib.Data.Int.DivMod

/-!
# Differences on a counter that wraps

A counter modulo `m`: the distance `forward m a b` from `a` up to `b`, and the
signed difference `nearest m a b` in the shorter direction, up on a tie.

* `nearest_shift`: adding the same to both ends changes neither.
* `nearest_self_shift` / `shift_nearest`: `nearest` finds the step of at most half a turn that was taken.
* `forward_emod` / `shift_emod`: the same for a counter that shows a count modulo `m`.
* `ediv_shift`: a counter modulo `c * m` divided by `c` is a counter modulo `m`.
-/

namespace Wrap

/-- The distance from `a` up to `b`. -/
def forward (m a b : Int) : Int := (b - a) % m

/-- The signed difference `b - a` in the shorter direction. -/
def nearest (m a b : Int) : Int :=
  if forward m a b ≤ forward m b a then forward m a b else -forward m b a

/-- The counter value `k` further. -/
def shift (m k a : Int) : Int := (a + k) % m

variable {m : Int}

theorem shift_nonneg (hm : 0 < m) (k a : Int) : 0 ≤ shift m k a :=
  Int.emod_nonneg _ (Int.ne_of_gt hm)

theorem shift_lt (hm : 0 < m) (k a : Int) : shift m k a < m :=
  Int.emod_lt_of_pos _ hm

theorem forward_shift (k a b : Int) : forward m (shift m k a) (shift m k b) = forward m a b := by
  unfold forward shift
  rw [← Int.sub_emod]
  congr 1
  omega

theorem nearest_shift (k a b : Int) : nearest m (shift m k a) (shift m k b) = nearest m a b := by
  unfold nearest
  rw [forward_shift, forward_shift]

/-- A step of at most half a turn; half a turn is a step up. -/
structure HalfTurn (m x : Int) : Prop where
  lower : -m < 2 * x
  upper : 2 * x ≤ m

theorem forward_self_shift (x a : Int) : forward m a (shift m x a) = x % m := by
  unfold forward shift
  rw [Int.emod_sub_emod]
  congr 1
  omega

theorem forward_shift_self (x a : Int) : forward m (shift m x a) a = -x % m := by
  unfold forward shift
  rw [Int.sub_emod_emod]
  congr 1
  omega

theorem nearest_self_shift {x : Int} (hx : HalfTurn m x) (a : Int) : nearest m a (shift m x a) = x := by
  obtain ⟨hlower, hupper⟩ := hx
  unfold nearest
  rw [forward_self_shift, forward_shift_self]
  rcases Int.lt_trichotomy x 0 with hneg | rfl | hpos
  · have hup : x % m = x + m := by
      rw [← Int.add_emod_right, Int.emod_eq_of_lt (by omega) (by omega)]
    have hdown : -x % m = -x := Int.emod_eq_of_lt (by omega) (by omega)
    rw [hup, hdown, if_neg (by omega)]
    omega
  · simp
  · have hup : x % m = x := Int.emod_eq_of_lt (by omega) (by omega)
    have hdown : -x % m = -x + m := by
      rw [← Int.add_emod_right, Int.emod_eq_of_lt (by omega) (by omega)]
    rw [hup, hdown, if_pos (by omega)]

theorem halfTurn_nearest (hm : 0 < m) (a b : Int) : HalfTurn m (nearest m a b) := by
  have hup := Int.emod_nonneg (b - a) (Int.ne_of_gt hm)
  have hup' := Int.emod_lt_of_pos (b - a) hm
  have hdown := Int.emod_nonneg (a - b) (Int.ne_of_gt hm)
  have hback : forward m b a = if forward m a b = 0 then 0 else m - forward m a b := by
    have hneg : a - b = -(b - a) := by omega
    unfold forward
    rw [hneg, Int.neg_emod, Int.natAbs_of_nonneg (Int.le_of_lt hm)]
    simp only [Int.dvd_iff_emod_eq_zero]
  unfold nearest
  rw [hback]
  unfold forward at *
  constructor <;> split <;> split <;> omega

theorem shift_nearest {a b : Int} (hb : 0 ≤ b) (hb' : b < m) : shift m (nearest m a b) a = b := by
  have hstep : (a + nearest m a b) % m = b % m := by
    unfold nearest forward
    split
    · rw [Int.add_emod_emod]
      congr 1
      omega
    · rw [← Int.sub_eq_add_neg, Int.sub_emod_emod, Int.sub_sub_self]
  unfold shift
  rw [hstep, Int.emod_eq_of_lt hb hb']

/-- Every counter value is one step of at most half a turn away. -/
theorem existsUnique_halfTurn (a : Int) {b : Int} (hb : 0 ≤ b) (hb' : b < m) :
    ∃ x, (HalfTurn m x ∧ shift m x a = b) ∧ ∀ y, HalfTurn m y ∧ shift m y a = b → y = x := by
  refine ⟨nearest m a b, ⟨halfTurn_nearest (by omega) a b, shift_nearest hb hb'⟩, ?_⟩
  rintro y ⟨hy, hyb⟩
  rw [← hyb, nearest_self_shift hy]

/-- What a counter shows of two counts. -/
theorem forward_emod (a b : Int) : forward m (a % m) (b % m) = (b - a) % m := (Int.sub_emod b a m).symm

theorem shift_emod (a b : Int) : shift m (b - a) (a % m) = b % m := by
  unfold shift
  rw [Int.emod_add_emod]
  congr 1
  omega

/-- Moving the finer counter by `c * k` moves the coarser one by `k`. -/
theorem ediv_shift {c : Int} (hc : 0 < c) (k a : Int) :
    shift (c * m) (c * k) a / c = shift m k (a / c) := by
  unfold shift
  have hdiv : (a + c * k) / c = a / c + k := Int.add_mul_ediv_left a k (Int.ne_of_gt hc)
  rw [Int.emod_def, Int.mul_assoc, Int.sub_mul_ediv_left _ _ (Int.ne_of_gt hc), hdiv, Int.emod_def,
    ← hdiv, Int.ediv_ediv_of_nonneg (Int.le_of_lt hc)]

end Wrap
