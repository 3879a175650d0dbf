/-
Quadratic.Proofs.Symmetry — changes of the coefficients that the discriminant
does not notice.

The square of `b` has no sign, and the product of `a` and `c` keeps its sign
if both change theirs. That holds of all numbers, NaN among them, since the
sign of a product is apart from its magnitude (`mul_neg`).

The order of `a` and `c` is another matter, because a product of three
factors is rounded twice. But the factor four only moves the exponent: as
long as that does not overflow, the product is rounded only once, from the
exact value of `4ac` (`four_mul_mul_eq`), which does not depend on the order.

* `neg_mul_neg` — two signs that cancel.
* `Coefficients.discriminant_symmetric` — the three symmetries.
-/
import Quadratic.Proofs.Degeneration
import Quadratic.Proofs.EqualCoefficients

namespace Quadratic

namespace Sign

@[simp] theorem flip_flip (s : Sign) : s.flip.flip = s := by cases s <;> rfl

theorem mul_flip (s t : Sign) : s.mul t.flip = (s.mul t).flip := by cases s <;> cases t <;> rfl

end Sign

namespace Binary64

/-! ## 1. Signs of products -/

@[simp] theorem neg_neg (x : Binary64) : x.neg.neg = x := by
  cases x <;> simp [neg]

theorem neg_ofRatio (s : Sign) (num den : Nat) :
    (ofRatio s num den).neg = ofRatio s.flip num den := by
  unfold ofRatio ofRank
  split <;> rfl

/-- A sign goes through a product. -/
theorem mul_neg (x y : Binary64) : x.mul y.neg = (x.mul y).neg := by
  cases x with
  | nan => cases y <;> rfl
  | infinity s =>
    cases y with
    | nan => rfl
    | infinity t => rw [neg, mul, mul, neg, s.mul_flip]
    | finite t k =>
      rw [neg, mul, mul, s.mul_flip]
      split <;> rfl
  | finite s j =>
    cases y with
    | nan => rfl
    | infinity t =>
      rw [neg, mul, mul, s.mul_flip]
      split <;> rfl
    | finite t k => rw [neg, mul, mul, s.mul_flip, neg_ofRatio]

theorem neg_mul_neg (x y : Binary64) : x.neg.mul y.neg = x.mul y :=
  calc x.neg.mul y.neg
      = (x.neg.mul y).neg := mul_neg x.neg y
    _ = (y.mul x.neg).neg := by rw [mul_comm x.neg y]
    _ = y.mul x := by rw [mul_neg y x, neg_neg]
    _ = x.mul y := mul_comm y x

/-! ## 2. The product of the outer coefficients -/

/-- If four times the first factor does not overflow, the product is that of
the exact values, rounded once. -/
theorem four_mul_mul_eq {s : Sign} {j : Fin infinityRank} (h : |toRat (finite s j)| < 2 ^ 1022)
    (t : Sign) (k : Fin infinityRank) :
    (Coefficients.four.mul (finite s j)).mul (finite t k) =
      ofRatio (s.mul t) (4 * (units j * units k)) unitsPerOne := by
  obtain ⟨i, hi, hmul⟩ := exists_four_mul_eq s j
  have hlt : i < infinityRank :=
    Nat.not_le.mp fun hle => not_le.mpr h ((infinityRank_le_iff_of_four_mul s hi).mp hle)
  have hfinite : ofRank s i = finite s ⟨i, hlt⟩ := ofRank_fin s ⟨i, hlt⟩
  rw [hmul, hfinite, mul, hi, Nat.mul_assoc]

theorem four_mul_mul_comm {x y : Binary64} (hx : x.isFinite = true) (hy : y.isFinite = true)
    (hxlt : |x.toRat| < 2 ^ 1022) (hylt : |y.toRat| < 2 ^ 1022) :
    (Coefficients.four.mul x).mul y = (Coefficients.four.mul y).mul x := by
  obtain ⟨s, j, rfl⟩ := exists_of_isFinite hx
  obtain ⟨t, k, rfl⟩ := exists_of_isFinite hy
  rw [four_mul_mul_eq hxlt, four_mul_mul_eq hylt, s.mul_comm, Nat.mul_comm (units j)]

end Binary64

open Binary64

namespace Coefficients

/-! ## 3. The discriminant -/

/-- The discriminant is the same, bit for bit, if `b` changes its sign, if
`a` and `c` both change theirs, and if `a` and `c` change places. The last
needs both to be finite and below 2¹⁰²², and nothing of `b`. -/
theorem discriminant_symmetric (q : Coefficients) :
    Coefficients.discriminant { q with b := q.b.neg } = q.discriminant ∧
    Coefficients.discriminant { q with a := q.a.neg, c := q.c.neg } = q.discriminant ∧
    (q.a.isFinite = true → q.c.isFinite = true →
      |q.a.toRat| < 2 ^ 1022 → |q.c.toRat| < 2 ^ 1022 →
        Coefficients.discriminant { q with a := q.c, c := q.a } = q.discriminant) := by
  refine ⟨?_, ?_, fun ha hc halt hclt => ?_⟩
  · rw [discriminant, discriminant, neg_mul_neg]
  · rw [discriminant, discriminant, mul_neg four q.a, neg_mul_neg]
  · rw [discriminant, discriminant, four_mul_mul_comm ha hc halt hclt]

/-- Three units and the largest number below 2¹⁰²². Their product is rounded,
and four times the second is the largest number of all. -/
def unlikeOuter : Coefficients :=
  ⟨ofBits 0x0000000000000003, ofBits 0x3ff8000000000000, ofBits 0x7fcfffffffffffff⟩

theorem discriminant_symmetric_unlikeOuter :
    unlikeOuter.a.isFinite = true ∧ unlikeOuter.c.isFinite = true ∧
      |unlikeOuter.a.toRat| < 2 ^ 1022 ∧ |unlikeOuter.c.toRat| < 2 ^ 1022 ∧
      Coefficients.discriminant { unlikeOuter with a := unlikeOuter.c, c := unlikeOuter.a } =
        unlikeOuter.discriminant := by
  have ha : unlikeOuter.a.isFinite = true := by decide +kernel
  have hc : unlikeOuter.c.isFinite = true := by decide +kernel
  have halt : |unlikeOuter.a.toRat| < 2 ^ 1022 := by decide +kernel
  have hclt : |unlikeOuter.c.toRat| < 2 ^ 1022 := by decide +kernel
  exact ⟨ha, hc, halt, hclt, (discriminant_symmetric unlikeOuter).2.2 ha hc halt hclt⟩

-- From 2¹⁰²² on the order matters: four times `a` overflows, and infinity times
-- zero is NaN.
example :
    discriminant ⟨ofBits 0x7fd0000000000000, zero .plus, zero .plus⟩ = nan ∧
      discriminant ⟨zero .plus, zero .plus, ofBits 0x7fd0000000000000⟩ = zero .plus := by
  decide +kernel

end Coefficients

end Quadratic
