/-
Quadratic.Proofs.Classification — the root count and the exact sign of
the discriminant.

`exactDiscriminant` is `b² - 4ac` over the rational numbers. The computed
discriminant is the difference of two rounded products. Rounding keeps
the order of the two, so the computed one can be zero where the exact one
is not, but the two never have opposite signs
(`rootCount_agrees_with_exact_sign`).

Both side conditions are needed. If `4a` overflows, the product with a
small `c` is infinite although `4ac` is not; and a discriminant that is
NaN counts as one without real roots.

Of the computed discriminant itself, if it is finite, the root count is
the exact sign (`RootCount.ofDiscriminant_of_isFinite`).
-/
import Quadratic.Proofs.Arithmetic

namespace Quadratic

open Binary64

/-! ## 1. Comparisons -/

theorem Binary64.not_le_of_lt {x y : Binary64} (h : y.lt x = true) : ¬ x.le y = true := by
  unfold Binary64.lt at h
  unfold Binary64.le
  cases hx : x.signedRank with
  | none => simp
  | some i =>
    cases hy : y.signedRank with
    | none => simp
    | some j =>
      simp only [hx, hy, decide_eq_true_eq] at h ⊢
      omega

/-- Two roots are reported exactly for positive discriminants. -/
theorem RootCount.ofDiscriminant_eq_two_iff (d : Binary64) :
    RootCount.ofDiscriminant d = .two ↔ (zero .plus).lt d = true := by
  unfold RootCount.ofDiscriminant
  split
  · rename_i h
    exact ⟨fun _ => h, fun _ => rfl⟩
  · rename_i h
    constructor
    · intro h'
      split at h' <;> cases h'
    · intro h'
      exact absurd h' h

/-- Of the discriminants that are numbers, exactly the negative ones have
no roots. -/
theorem RootCount.ofDiscriminant_eq_none_iff {d : Binary64} (hd : d ≠ .nan) :
    RootCount.ofDiscriminant d = .none ↔ d.lt (zero .plus) = true := by
  obtain ⟨r, hr⟩ : ∃ r, d.signedRank = some r := by
    cases d with
    | nan => exact absurd rfl hd
    | infinity s => exact ⟨_, rfl⟩
    | finite s k => exact ⟨_, rfl⟩
  have hzero : (zero .plus).signedRank = some 0 := rfl
  unfold RootCount.ofDiscriminant lt numEq
  simp only [hr, hzero, decide_eq_true_eq]
  split
  · simp only [reduceCtorEq, false_iff]
    omega
  · split
    · simp only [reduceCtorEq, false_iff]
      omega
    · simp only [true_iff]
      omega

/-- The root count of a finite discriminant is the sign of its value. -/
theorem RootCount.ofDiscriminant_of_isFinite {d : Binary64} (hd : d.isFinite = true) :
    (RootCount.ofDiscriminant d = .two ↔ 0 < d.toRat) ∧
      (RootCount.ofDiscriminant d = .one ↔ d.toRat = 0) ∧
      (RootCount.ofDiscriminant d = .none ↔ d.toRat < 0) := by
  have hnan : d ≠ .nan := by
    rintro rfl
    cases hd
  have hzero : (zero .plus).toRat = 0 := by
    rw [zero, toRat_plus, units_zero, Nat.cast_zero, zero_div]
  have htwo := RootCount.ofDiscriminant_eq_two_iff d
  have hnone := RootCount.ofDiscriminant_eq_none_iff hnan
  rw [lt_iff_toRat_lt rfl hd, hzero] at htwo
  rw [lt_iff_toRat_lt hd rfl, hzero] at hnone
  refine ⟨htwo, ?_, hnone⟩
  have hone : RootCount.ofDiscriminant d = .one ↔
      ¬ RootCount.ofDiscriminant d = .two ∧ ¬ RootCount.ofDiscriminant d = .none := by
    cases RootCount.ofDiscriminant d <;> simp
  rw [hone, htwo, hnone, not_lt, not_lt, le_antisymm_iff]

/-! ## 2. The two products -/

namespace Coefficients

/-- The exact discriminant of finite coefficients. -/
def exactDiscriminant (q : Coefficients) : ℚ :=
  q.b.toRat ^ 2 - 4 * q.a.toRat * q.c.toRat

theorem square_isRounded {x : Binary64} (hx : x.isFinite = true) :
    IsRounded (x.toRat ^ 2) (x.mul x) := by
  obtain ⟨s, k, rfl⟩ := exists_of_isFinite hx
  rw [sq]
  exact mul_isRounded s s k k

theorem four_product_isRounded {x y : Binary64} (hx : x.isFinite = true)
    (hy : y.isFinite = true) (h : (four.mul x).isFinite = true) :
    IsRounded (4 * x.toRat * y.toRat) ((four.mul x).mul y) := by
  rw [← toRat_four_mul hx h]
  obtain ⟨s, j, hz⟩ := exists_of_isFinite h
  obtain ⟨t, k, rfl⟩ := exists_of_isFinite hy
  rw [hz]
  exact mul_isRounded s t j k

/-! ## 3. The sign -/

/-- The root count never contradicts the exact sign of the discriminant:
two roots are reported only if it is positive, none only if it is
negative. Rounding, underflow and overflow can at most turn a
discriminant into one that counts as zero. -/
theorem rootCount_agrees_with_exact_sign (q : Coefficients) (ha : q.a.isFinite = true)
    (hb : q.b.isFinite = true) (hc : q.c.isFinite = true)
    (hfour : (four.mul q.a).isFinite = true) (hd : q.discriminant ≠ .nan) :
    (RootCount.ofDiscriminant q.discriminant = .two → 0 < q.exactDiscriminant) ∧
      (RootCount.ofDiscriminant q.discriminant = .none → q.exactDiscriminant < 0) := by
  have hsquare := square_isRounded hb
  have hproduct := four_product_isRounded ha hc hfour
  rw [RootCount.ofDiscriminant_eq_two_iff, RootCount.ofDiscriminant_eq_none_iff hd]
  unfold exactDiscriminant
  unfold discriminant at hd ⊢
  rw [zero_lt_sub hd, sub_lt_zero hd]
  constructor
  · intro hlt
    have hnle : ¬ q.b.toRat ^ 2 ≤ 4 * q.a.toRat * q.c.toRat :=
      fun h => not_le_of_lt hlt (hsquare.le hproduct h)
    exact sub_pos.mpr (not_le.mp hnle)
  · intro hlt
    have hnle : ¬ 4 * q.a.toRat * q.c.toRat ≤ q.b.toRat ^ 2 :=
      fun h => not_le_of_lt hlt (hproduct.le hsquare h)
    exact sub_neg.mpr (not_le.mp hnle)

/-- Coefficients whose products underflow: `b²` is 2.25 units of 2⁻¹⁰⁷⁴ and
is rounded, and `4ac` is one unit. -/
def underflowing : Coefficients :=
  ⟨ofBits 0x3fd0000000000000, ofBits 0x1e68000000000000, ofBits 0x0000000000000001⟩

theorem rootCount_of_underflowing :
    underflowing.a.isFinite = true ∧ underflowing.b.isFinite = true ∧
      underflowing.c.isFinite = true ∧ (four.mul underflowing.a).isFinite = true ∧
      underflowing.discriminant ≠ .nan ∧
      RootCount.ofDiscriminant underflowing.discriminant = .two ∧
      0 < underflowing.exactDiscriminant := by
  have ha : underflowing.a.isFinite = true := by decide +kernel
  have hb : underflowing.b.isFinite = true := by decide +kernel
  have hc : underflowing.c.isFinite = true := by decide +kernel
  have hfour : (four.mul underflowing.a).isFinite = true := by decide +kernel
  have hd : underflowing.discriminant ≠ .nan := by decide +kernel
  have htwo : RootCount.ofDiscriminant underflowing.discriminant = .two := by decide +kernel
  exact ⟨ha, hb, hc, hfour, hd, htwo,
    (rootCount_agrees_with_exact_sign underflowing ha hb hc hfour hd).1 htwo⟩

end Coefficients

end Quadratic
