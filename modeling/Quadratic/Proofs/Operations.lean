/-
Quadratic.Proofs.Operations — multiplication and subtraction by the rules
of IEEE 754, and the discriminant by these two.

The rules are relations between operands and result. Those for finite
operands speak of the exact rational result and of what rounding makes of
it (`RoundsTo`); they know of no ranks, no alignment and no carries. The
others say what becomes of infinities and NaN. Each pair of operands has
one result by the rules, and it is the computed one.

* `IsProduct`, `IsDifference` — the rules, one constructor for each.
* `mul_eq_iff`, `sub_eq_iff` — the operations follow them.
* `Coefficients.discriminant_follows_rules` — the discriminant is evaluated by
  them as `(b · b) - ((4 · a) · c)`.
-/
import Quadratic.Proofs.FiniteRange
import Quadratic.Proofs.Integers

namespace Quadratic

namespace Binary64

/-! ## 1. The rules -/

/-- The rules of multiplication. A product has the exclusive or of the signs
of its operands, also if it is zero or infinite. -/
inductive IsProduct : Binary64 → Binary64 → Binary64 → Prop
  | nan_left (y : Binary64) : IsProduct nan y nan
  | nan_right (x : Binary64) : IsProduct x nan nan
  | infinity_zero (s t : Sign) : IsProduct (infinity s) (zero t) nan
  | zero_infinity (s t : Sign) : IsProduct (zero s) (infinity t) nan
  | infinities (s t : Sign) : IsProduct (infinity s) (infinity t) (infinity (s.mul t))
  | infinity_finite {s t : Sign} {k : Fin infinityRank} (hk : finite t k ≠ zero t) :
      IsProduct (infinity s) (finite t k) (infinity (s.mul t))
  | finite_infinity {s t : Sign} {j : Fin infinityRank} (hj : finite s j ≠ zero s) :
      IsProduct (finite s j) (infinity t) (infinity (s.mul t))
  | finite {s t : Sign} {j k : Fin infinityRank} {z : Binary64}
      (h : RoundsTo (toRat (finite s j) * toRat (finite t k)) z) (hz : z.sign? = some (s.mul t)) :
      IsProduct (finite s j) (finite t k) z

/-- The rules of subtraction. If the exact difference is zero, so is the
result: positive for operands of like signs, and with the sign of the first
operand for others. -/
inductive IsDifference : Binary64 → Binary64 → Binary64 → Prop
  | nan_left (y : Binary64) : IsDifference nan y nan
  | nan_right (x : Binary64) : IsDifference x nan nan
  | like_infinities (s : Sign) : IsDifference (infinity s) (infinity s) nan
  | infinities {s t : Sign} (hst : s ≠ t) : IsDifference (infinity s) (infinity t) (infinity s)
  | infinity_finite (s t : Sign) (k : Fin infinityRank) :
      IsDifference (infinity s) (finite t k) (infinity s)
  | finite_infinity (s t : Sign) (j : Fin infinityRank) :
      IsDifference (finite s j) (infinity t) (infinity t.flip)
  | finite {s t : Sign} {j k : Fin infinityRank} {z : Binary64}
      (h : RoundsTo (toRat (finite s j) - toRat (finite t k)) z)
      (hlike : toRat (finite s j) = toRat (finite t k) → s = t → z.sign? = some .plus)
      (hunlike : toRat (finite s j) = toRat (finite t k) → s ≠ t → z.sign? = some s) :
      IsDifference (finite s j) (finite t k) z

/-! ## 2. The operations follow the rules -/

theorem finite_eq_zero_iff (s : Sign) (k : Fin infinityRank) :
    finite s k = zero s ↔ k.val = 0 := by
  rw [zero, finite.injEq, Fin.ext_iff]
  exact ⟨fun h => h.2, fun h => ⟨rfl, h⟩⟩

theorem isProduct_mul (x y : Binary64) : IsProduct x y (x.mul y) := by
  cases x with
  | nan => exact .nan_left y
  | infinity s =>
    cases y with
    | nan => exact .nan_right _
    | infinity t => exact .infinities s t
    | finite t k =>
      by_cases hk : k.val = 0
      · rw [mul, if_pos hk, (finite_eq_zero_iff t k).mpr hk]
        exact .infinity_zero s t
      · rw [mul, if_neg hk]
        exact .infinity_finite (mt (finite_eq_zero_iff t k).mp hk)
  | finite s j =>
    cases y with
    | nan => exact .nan_right _
    | infinity t =>
      by_cases hj : j.val = 0
      · rw [mul, if_pos hj, (finite_eq_zero_iff s j).mpr hj]
        exact .zero_infinity s t
      · rw [mul, if_neg hj]
        exact .finite_infinity (mt (finite_eq_zero_iff s j).mp hj)
    | finite t k => exact .finite (mul_isRounded s t j k).roundsTo (sign?_mul s t j k)

theorem mul_eq_of_isProduct {x y z : Binary64} (h : IsProduct x y z) : x.mul y = z := by
  cases h with
  | nan_left | infinities => rfl
  | nan_right => cases x <;> rfl
  | infinity_zero | zero_infinity => rfl
  | @infinity_finite s t k hk => exact if_neg (mt (finite_eq_zero_iff t k).mpr hk)
  | @finite_infinity s t j hj => exact if_neg (mt (finite_eq_zero_iff s j).mpr hj)
  | @finite s t j k z h hz =>
    refine (mul_isRounded s t j k).roundsTo.unique h fun _ => ?_
    rw [hz, sign?_mul]

/-- A computed product is the one by the rules. -/
theorem mul_eq_iff {x y z : Binary64} : x.mul y = z ↔ IsProduct x y z :=
  ⟨fun h => h ▸ isProduct_mul x y, mul_eq_of_isProduct⟩

/-- Which sign a difference of zero gets. -/
theorem sign?_sub_of_eq {s t : Sign} {j k : Fin infinityRank}
    (h : toRat (finite s j) = toRat (finite t k)) :
    ((finite s j).sub (finite t k)).sign? = some (if s = t then .plus else s) := by
  have hunits : signedUnits s j = signedUnits t k := by
    rw [toRat, toRat, div_left_inj' cast_unitsPerOne_pos.ne', Int.cast_inj] at h
    exact h
  rw [sub, if_pos (sub_eq_zero.mpr hunits)]
  cases s <;> cases t <;> rfl

theorem isDifference_sub (x y : Binary64) : IsDifference x y (x.sub y) := by
  cases x with
  | nan => exact .nan_left y
  | infinity s =>
    cases y with
    | nan => exact .nan_right _
    | infinity t =>
      by_cases hst : s = t
      · rw [sub, if_pos hst, hst]
        exact .like_infinities t
      · rw [sub, if_neg hst]
        exact .infinities hst
    | finite t k => exact .infinity_finite s t k
  | finite s j =>
    cases y with
    | nan => exact .nan_right _
    | infinity t => exact .finite_infinity s t j
    | finite t k =>
      refine .finite (sub_isRounded s t j k).roundsTo ?_ ?_
      · intro h hst
        rw [sign?_sub_of_eq h, if_pos hst]
      · intro h hst
        rw [sign?_sub_of_eq h, if_neg hst]

theorem sub_eq_of_isDifference {x y z : Binary64} (h : IsDifference x y z) : x.sub y = z := by
  cases h with
  | nan_left | infinity_finite | finite_infinity => rfl
  | nan_right => cases x <;> rfl
  | like_infinities => exact if_pos rfl
  | infinities hst => exact if_neg hst
  | @finite s t j k z h hlike hunlike =>
    refine (sub_isRounded s t j k).roundsTo.unique h fun hzero => ?_
    have heq := sub_eq_zero.mp hzero
    rw [sign?_sub_of_eq heq]
    by_cases hst : s = t
    · rw [if_pos hst, hlike heq hst]
    · rw [if_neg hst, hunlike heq hst]

/-- A computed difference is the one by the rules. -/
theorem sub_eq_iff {x y z : Binary64} : x.sub y = z ↔ IsDifference x y z :=
  ⟨fun h => h ▸ isDifference_sub x y, sub_eq_of_isDifference⟩

end Binary64

/-! ## 3. The discriminant -/

namespace Coefficients

open Binary64

/-- The discriminant of any coefficients, zeros of both signs, infinities and
NaN among them: the square of `b`, less the product of four times `a` and
`c`, each of the four results by the rules and nothing else. -/
theorem discriminant_follows_rules (q : Coefficients) :
    four.HasValue 4 ∧
    ∀ d, q.discriminant = d ↔
      ∃ square scaled product, IsProduct q.b q.b square ∧ IsProduct four q.a scaled ∧
        IsProduct scaled q.c product ∧ IsDifference square product d := by
  refine ⟨four_hasValue, fun d => ?_⟩
  constructor
  · rintro rfl
    exact ⟨q.b.mul q.b, four.mul q.a, (four.mul q.a).mul q.c, isProduct_mul _ _, isProduct_mul _ _,
      isProduct_mul _ _, isDifference_sub _ _⟩
  · rintro ⟨square, scaled, product, hsquare, hscaled, hproduct, hd⟩
    obtain rfl := mul_eq_iff.mpr hsquare
    obtain rfl := mul_eq_iff.mpr hscaled
    obtain rfl := mul_eq_iff.mpr hproduct
    exact sub_eq_iff.mpr hd

end Coefficients

end Quadratic
