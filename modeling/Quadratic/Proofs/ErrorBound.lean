/-
Quadratic.Proofs.ErrorBound — how far the computed discriminant is from the
exact one.

A rounded value is at most half a step away from the exact one. Measured
against the value that is `unitRoundoff`, except in the first two runs of
ranks, where all steps are one unit and the error is up to half of one
(`RoundsTo.abs_sub_le`). There a product may lose everything it has, but
not a difference: it is a whole number of units, and the numbers up to 2⁵³
units are all there. So the error of a difference is always relative
(`abs_toRat_sub_sub_le`).

Scaling by four is exact. That leaves two products, each with both kinds
of error, and a difference. What the difference adds is small against its
operands and not against its result, since these may cancel: the bound is
relative to `b² + |4ac|`.

* `isFinite_of_sub`, `isFinite_of_mul` — a finite result has finite
  operands.
* `discriminant_error_le` — the bound, for every discriminant that is
  finite.
-/
import Quadratic.Proofs.Classification
import Quadratic.Proofs.FiniteRange

namespace Quadratic

namespace Binary64

/-! ## 1. One rounding -/

/-- The largest relative error of a rounding, away from the smallest
numbers. -/
def unitRoundoff : ℚ := 1 / 2 ^ 53

theorem unitRoundoff_pos : 0 < unitRoundoff := by norm_num [unitRoundoff]

/-- No magnitude is nearer than the nearest one. -/
theorem IsNearest.abs_sub_le {x : ℚ} {k : Nat} (h : IsNearest x k) (j : Nat) :
    |x - units k| ≤ |x - units j| := by
  by_cases hj : j = k
  · rw [hj]
  · exact (h j hj).elim le_of_lt fun heq => heq.1.le

/-- A value is within the step below or above its nearest magnitude. -/
theorem IsNearest.exists_step {x : ℚ} {k : Nat} (h : IsNearest x k) (hx : 0 ≤ x) :
    ∃ j, (units j : ℚ) ≤ x ∧ x ≤ units (j + 1) := by
  rcases le_or_gt (units k : ℚ) x with hle | hlt
  · exact ⟨k, hle, h.le_halfway.trans (halfway_lt_units k).le⟩
  · have hk : k ≠ 0 := by
      rintro rfl
      rw [units_zero, Nat.cast_zero] at hlt
      exact not_le.mpr hlt hx
    obtain ⟨j, rfl⟩ := Nat.exists_eq_succ_of_ne_zero hk
    exact ⟨j, (units_lt_halfway j).le.trans h.halfway_le, hlt.le⟩

/-- Within a step the error is at most half of it. -/
theorem IsNearest.abs_sub_le_of_step {x : ℚ} {j k : Nat} (h : IsNearest x k)
    (hlow : (units j : ℚ) ≤ x) (hhigh : x ≤ units (j + 1)) :
    |x - units k| ≤ 2 ^ exponent j / 2 := by
  have hj := h.abs_sub_le j
  have hj' := h.abs_sub_le (j + 1)
  rw [abs_of_nonneg (sub_nonneg.mpr hlow)] at hj
  rw [abs_of_nonpos (sub_nonpos.mpr hhigh), cast_units_succ] at hj'
  linarith

/-- Half a step is small against the values in it, or it is half a unit. -/
theorem half_step_le (j : Nat) :
    (2 : ℚ) ^ exponent j / 2 ≤ max (unitRoundoff * units j) (1 / 2) := by
  rcases (isSignificand_significand j).2 with hexp | hsig
  · rw [hexp, pow_zero]
    exact le_max_right _ _
  · refine le_max_of_le_left ?_
    have hunits : (2 : ℚ) ^ 52 * 2 ^ exponent j ≤ units j := by
      exact_mod_cast Nat.mul_le_mul_right (2 ^ exponent j) hsig
    calc (2 : ℚ) ^ exponent j / 2
        = unitRoundoff * (2 ^ 52 * 2 ^ exponent j) := by
          unfold unitRoundoff
          ring
      _ ≤ unitRoundoff * units j := mul_le_mul_of_nonneg_left hunits unitRoundoff_pos.le

/-- The error of a rounding, in units. -/
theorem IsNearest.abs_sub_le_max {x : ℚ} {k : Nat} (h : IsNearest x k) (hx : 0 ≤ x) :
    |x - units k| ≤ max (unitRoundoff * x) (1 / 2) := by
  obtain ⟨j, hlow, hhigh⟩ := h.exists_step hx
  refine (h.abs_sub_le_of_step hlow hhigh).trans ((half_step_le j).trans ?_)
  exact max_le_max_right _ (mul_le_mul_of_nonneg_left hlow unitRoundoff_pos.le)

/-- The error for a whole number of units. There is none as long as all
numbers of units have a rank. -/
theorem IsNearest.abs_natCast_sub_le {n k : Nat} (h : IsNearest n k) :
    |(n : ℚ) - units k| ≤ unitRoundoff * n := by
  rcases Nat.le_total n (2 ^ 53) with hsmall | hlarge
  · obtain ⟨j, hj⟩ := exists_rank_of_le hsmall 0
    rw [pow_zero, Nat.mul_one] at hj
    have hexact := h.abs_sub_le j
    rw [hj, sub_self, abs_zero] at hexact
    exact hexact.trans (mul_nonneg unitRoundoff_pos.le (Nat.cast_nonneg n))
  · have hn : (2 : ℚ) ^ 53 ≤ n := by exact_mod_cast hlarge
    have hhalf : 1 / 2 ≤ unitRoundoff * n := by
      calc (1 : ℚ) / 2 ≤ unitRoundoff * 2 ^ 53 := by norm_num [unitRoundoff]
        _ ≤ unitRoundoff * n := mul_le_mul_of_nonneg_left hn unitRoundoff_pos.le
    have herror := h.abs_sub_le_max (Nat.cast_nonneg n)
    rwa [max_eq_left hhalf] at herror

/-! ## 2. Products and differences -/

/-- Half a unit, as a value: the largest error in the first two runs of
ranks. -/
def halfUnit : ℚ := 1 / 2 / (unitsPerOne : Nat)

/-- Two units are 2⁻¹⁰⁷³. -/
theorem four_mul_halfUnit : 2 * (2 * halfUnit) = 1 / 2 ^ 1073 := by
  have hunits : ((unitsPerOne : Nat) : ℚ) = 2 * 2 ^ 1073 := by
    push_cast
    exact pow_succ' 2 1073
  rw [halfUnit, hunits]
  generalize (2 : ℚ) ^ 1073 = p
  ring

/-- The error of a rounding to a finite number. -/
theorem RoundsTo.abs_sub_le {v : ℚ} {x : Binary64} (h : RoundsTo v x) (hx : x.isFinite = true) :
    |v - x.toRat| ≤ max (unitRoundoff * |v|) halfUnit := by
  obtain ⟨s, k, rfl⟩ := exists_of_isFinite hx
  obtain ⟨hs, hk⟩ := roundsTo_finite_iff.mp h
  have hpos := cast_unitsPerOne_pos
  have herror := hk.abs_sub_le_max (mul_nonneg (abs_nonneg v) hpos.le)
  rw [hs.abs_sub_toRat, div_le_iff₀ hpos, max_mul_of_nonneg _ _ hpos.le, halfUnit,
    div_mul_cancel₀ _ hpos.ne', mul_assoc]
  exact herror

/-- The error for a value that is a whole number of units. -/
theorem RoundsTo.abs_sub_le_of_whole {v : ℚ} {x : Binary64} (h : RoundsTo v x)
    (hx : x.isFinite = true) {n : Nat} (hn : |v| * (unitsPerOne : Nat) = n) :
    |v - x.toRat| ≤ unitRoundoff * |v| := by
  obtain ⟨s, k, rfl⟩ := exists_of_isFinite hx
  obtain ⟨hs, hk⟩ := roundsTo_finite_iff.mp h
  have hpos := cast_unitsPerOne_pos
  rw [hn] at hk
  rw [hs.abs_sub_toRat, div_le_iff₀ hpos, mul_assoc, hn]
  exact hk.abs_natCast_sub_le

theorem isFinite_of_mul {x y : Binary64} (h : (x.mul y).isFinite = true) :
    x.isFinite = true ∧ y.isFinite = true := by
  cases x with
  | nan => cases h
  | infinity s =>
    cases y with
    | nan | infinity => cases h
    | finite t k =>
      rw [mul] at h
      split at h <;> cases h
  | finite s j =>
    cases y with
    | nan => cases h
    | infinity t =>
      rw [mul] at h
      split at h <;> cases h
    | finite t k => exact ⟨rfl, rfl⟩

theorem isFinite_of_sub {x y : Binary64} (h : (x.sub y).isFinite = true) :
    x.isFinite = true ∧ y.isFinite = true := by
  cases x with
  | nan => cases h
  | infinity s =>
    cases y with
    | nan | finite => cases h
    | infinity t =>
      rw [sub] at h
      split at h <;> cases h
  | finite s j =>
    cases y with
    | nan | infinity => cases h
    | finite t k => exact ⟨rfl, rfl⟩

/-- The error of a difference is relative: the exact difference is a whole
number of units. -/
theorem abs_toRat_sub_sub_le {x y : Binary64} (h : (x.sub y).isFinite = true) :
    |x.toRat - y.toRat - (x.sub y).toRat| ≤ unitRoundoff * |x.toRat - y.toRat| := by
  obtain ⟨hx, hy⟩ := isFinite_of_sub h
  obtain ⟨s, j, rfl⟩ := exists_of_isFinite hx
  obtain ⟨t, k, rfl⟩ := exists_of_isFinite hy
  refine (sub_isRounded s t j k).roundsTo.abs_sub_le_of_whole h
    (n := (signedUnits s j - signedUnits t k).natAbs) ?_
  have hpos := cast_unitsPerOne_pos
  rw [toRat, toRat, ← sub_div, ← Int.cast_sub, abs_div, abs_of_pos hpos,
    div_mul_cancel₀ _ hpos.ne', Nat.cast_natAbs, Int.cast_abs]

end Binary64

/-! ## 3. The discriminant -/

namespace Coefficients

open Binary64

/-- A finite discriminant has finite coefficients, and nothing overflows on
the way to it. -/
theorem isFinite_of_discriminant {q : Coefficients} (h : q.discriminant.isFinite = true) :
    q.a.isFinite = true ∧ q.b.isFinite = true ∧ q.c.isFinite = true ∧
      (four.mul q.a).isFinite = true ∧ (q.b.mul q.b).isFinite = true ∧
      ((four.mul q.a).mul q.c).isFinite = true := by
  obtain ⟨hsquare, hproduct⟩ := isFinite_of_sub h
  obtain ⟨hfour, hc⟩ := isFinite_of_mul hproduct
  exact ⟨(isFinite_of_mul hfour).2, (isFinite_of_mul hsquare).1, hc, hfour, hsquare, hproduct⟩

/-- The errors of a difference and of its operands, put together. -/
theorem abs_sub_le_of_errors {u h v w x y d : ℚ} (hu : 0 ≤ u)
    (hx : |v - x| ≤ u * |v| + h) (hy : |w - y| ≤ u * |w| + h) (hd : |x - y - d| ≤ u * |x - y|) :
    |d - (v - w)| ≤ (2 * u + u ^ 2) * (|v| + |w|) + (1 + u) * (2 * h) := by
  -- What the operands have lost, and what the difference is at most.
  have hloss : |x - y - (v - w)| ≤ u * (|v| + |w|) + 2 * h := by
    calc |x - y - (v - w)| = |(w - y) - (v - x)| := by ring_nf
      _ ≤ |w - y| + |v - x| := abs_sub _ _
      _ ≤ u * (|v| + |w|) + 2 * h := by linarith
  have hsize : |x - y| ≤ |v| + |w| + (u * (|v| + |w|) + 2 * h) := by
    calc |x - y| = |(v - w) + (x - y - (v - w))| := by ring_nf
      _ ≤ |v - w| + |x - y - (v - w)| := abs_add_le _ _
      _ ≤ |v| + |w| + (u * (|v| + |w|) + 2 * h) := add_le_add (abs_sub _ _) hloss
  calc |d - (v - w)| = |(x - y - (v - w)) - (x - y - d)| := by ring_nf
    _ ≤ |x - y - (v - w)| + |x - y - d| := abs_sub _ _
    _ ≤ (u * (|v| + |w|) + 2 * h) + u * (|v| + |w| + (u * (|v| + |w|) + 2 * h)) :=
        add_le_add hloss (hd.trans (mul_le_mul_of_nonneg_left hsize hu))
    _ = (2 * u + u ^ 2) * (|v| + |w|) + (1 + u) * (2 * h) := by ring

/-- The error of the discriminant. Whenever the computed discriminant is
finite, and with it the coefficients and everything on the way to it
(`isFinite_of_discriminant`), it is within the bound of the exact one,
also where operands and products underflow. -/
theorem discriminant_error_le (q : Coefficients) (h : q.discriminant.isFinite = true) :
    |q.discriminant.toRat - q.exactDiscriminant| ≤
      (2 * unitRoundoff + unitRoundoff ^ 2) *
        (q.b.toRat ^ 2 + |4 * q.a.toRat * q.c.toRat|) + 1 / 2 ^ 1073 := by
  obtain ⟨ha, hb, hc, hfour, hsquare, hproduct⟩ := isFinite_of_discriminant h
  have hu := unitRoundoff_pos.le
  have hhalf : 0 ≤ halfUnit := by
    unfold halfUnit
    positivity
  have hadd : ∀ v : ℚ, max (unitRoundoff * |v|) halfUnit ≤ unitRoundoff * |v| + halfUnit :=
    fun v => max_le_add_of_nonneg (mul_nonneg hu (abs_nonneg v)) hhalf
  have hsquare' := ((square_isRounded hb).roundsTo.abs_sub_le hsquare).trans (hadd _)
  have hproduct' :=
    ((four_product_isRounded ha hc hfour).roundsTo.abs_sub_le hproduct).trans (hadd _)
  have herror := abs_sub_le_of_errors hu hsquare' hproduct' (abs_toRat_sub_sub_le h)
  rw [abs_of_nonneg (sq_nonneg q.b.toRat)] at herror
  refine herror.trans (add_le_add_right ?_ _)
  calc (1 + unitRoundoff) * (2 * halfUnit)
      ≤ 2 * (2 * halfUnit) := by
        refine mul_le_mul_of_nonneg_right ?_ (mul_nonneg two_pos.le hhalf)
        norm_num [unitRoundoff]
    _ = 1 / 2 ^ 1073 := four_mul_halfUnit

/-- Coefficients whose discriminant loses all of its digits: `b²` is one more
than `4ac`, which is `2⁵⁴ + 2²⁸`, and is rounded to that. -/
def cancelling : Coefficients :=
  ⟨ofInt 1, ofInt (2 ^ 27 + 1), ofInt (2 ^ 52 + 2 ^ 26)⟩

theorem discriminant_error_of_cancelling :
    cancelling.discriminant.isFinite = true ∧
      cancelling.discriminant.toRat = 0 ∧ cancelling.exactDiscriminant = 1 ∧
      |cancelling.discriminant.toRat - cancelling.exactDiscriminant| ≤
        (2 * unitRoundoff + unitRoundoff ^ 2) *
          (cancelling.b.toRat ^ 2 + |4 * cancelling.a.toRat * cancelling.c.toRat|) +
            1 / 2 ^ 1073 := by
  have h : cancelling.discriminant.isFinite = true := by decide +kernel
  refine ⟨h, ?_, ?_, discriminant_error_le cancelling h⟩
  · decide +kernel
  · decide +kernel

end Coefficients

end Quadratic
