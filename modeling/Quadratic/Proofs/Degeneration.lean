/-
Quadratic.Proofs.Degeneration — which finite coefficients have NaN for a
discriminant.

From finite operands NaN comes about in two ways only: an infinite `4a`
meets a zero `c`, or an infinite `b²` meets an infinite `4ac` of the same
sign. So it is a matter of which of the operations overflow, and that is
decided by exact values: a product overflows from `overflowBound` on, and
`4a` from 2¹⁰²⁴ on, since it is exact and there is no number between the
two.

* `product_eq_nan_iff`, `product_eq_plus_iff`, `square_eq_plus_iff` — when
  the two products are NaN or infinite.
* `Coefficients.IsDegenerate` — the condition on the coefficients.
* `degenerate_iff_reported` — that it is the right one, in terms of the
  number and in terms of the report.
-/
import Quadratic.Proofs.Operations
import Quadratic.Proofs.Report

namespace Quadratic

namespace Binary64

/-! ## 1. Signs of exact values -/

theorem toRat_eq_zero_iff (s : Sign) (k : Fin infinityRank) :
    toRat (finite s k) = 0 ↔ k.val = 0 := by
  have hunits := units_strictMono.injective.eq_iff (a := k.val) (b := 0)
  rw [units_zero] at hunits
  have hplus : toRat (finite .plus k) = 0 ↔ k.val = 0 := by
    rw [toRat_plus, div_eq_zero_iff, or_iff_left cast_unitsPerOne_pos.ne', Nat.cast_eq_zero, hunits]
  cases s with
  | plus => exact hplus
  | minus => rw [show Sign.minus = Sign.plus.flip from rfl, toRat_flip, neg_eq_zero, hplus]

/-- A product of finite numbers is positive if they have one sign and neither
is zero. -/
theorem toRat_mul_pos_iff (s t : Sign) (j k : Fin infinityRank) :
    0 < toRat (finite s j) * toRat (finite t k) ↔ s.mul t = .plus ∧ j.val ≠ 0 ∧ k.val ≠ 0 := by
  have hnonneg : 0 ≤ toRat (finite .plus j) * toRat (finite .plus k) := by
    rw [toRat_plus, toRat_plus]
    positivity
  have hplus : 0 < toRat (finite .plus j) * toRat (finite .plus k) ↔ j.val ≠ 0 ∧ k.val ≠ 0 := by
    rw [hnonneg.lt_iff_ne', mul_ne_zero_iff, Ne, Ne, toRat_eq_zero_iff, toRat_eq_zero_iff]
  have hminus : ¬ 0 < -(toRat (finite .plus j) * toRat (finite .plus k)) :=
    not_lt.mpr (neg_nonpos.mpr hnonneg)
  have hflip : ∀ i, toRat (finite .minus i) = -toRat (finite .plus i) := toRat_flip .plus
  cases s with
  | plus =>
    cases t with
    | plus => rw [hplus, Sign.mul, and_iff_right rfl]
    | minus =>
      rw [hflip, mul_neg]
      exact iff_of_false hminus fun h => Sign.noConfusion h.1
  | minus =>
    cases t with
    | plus =>
      rw [hflip, neg_mul]
      exact iff_of_false hminus fun h => Sign.noConfusion h.1
    | minus => rw [hflip, hflip, neg_mul_neg, hplus, Sign.mul, Sign.flip, and_iff_right rfl]

/-! ## 2. Overflow -/

theorem overflowBound_pos : 0 < overflowBound := by
  exact sub_pos.mpr (pow_lt_pow_right₀ one_lt_two (by omega))

theorem RoundsTo.ne_nan {v : ℚ} {x : Binary64} (h : RoundsTo v x) : x ≠ nan := by
  cases h <;> exact Binary64.noConfusion

/-- A value overflows to positive infinity from the bound on. -/
theorem RoundsTo.eq_plus_iff {v : ℚ} {x : Binary64} (h : RoundsTo v x) :
    x = Binary64.infinity .plus ↔ overflowBound ≤ v := by
  cases h with
  | finite hs hv hk =>
    exact iff_of_false Binary64.noConfusion fun hle => not_le.mpr hv (hle.trans (le_abs_self v))
  | @infinity s hs hv =>
    cases s with
    | plus => exact iff_of_true rfl (by rwa [abs_of_nonneg hs] at hv)
    | minus =>
      refine iff_of_false (by simp) fun hle => ?_
      exact absurd (overflowBound_pos.trans_le hle) (not_lt.mpr hs)

theorem infinityRank_le_iff_of_four_mul (s : Sign) {j : Nat} {k : Fin infinityRank}
    (hj : units j = 4 * units k) : infinityRank ≤ j ↔ 2 ^ 1022 ≤ |toRat (finite s k)| := by
  have hpow : 2 ^ 1024 * unitsPerOne = 4 * (2 ^ 1022 * unitsPerOne) := by decide +kernel
  rw [abs_toRat_finite, le_div_iff₀ cast_unitsPerOne_pos, ← units_strictMono.le_iff_le, hj,
    units_infinityRank, hpow, Nat.mul_le_mul_left_iff (by omega)]
  exact_mod_cast Iff.rfl

/-- Four times a number overflows from 2¹⁰²² on, with the sign that it has. -/
theorem four_mul_eq_infinity {s : Sign} {k : Fin infinityRank}
    (h : 2 ^ 1022 ≤ |toRat (finite s k)|) : Coefficients.four.mul (finite s k) = infinity s := by
  obtain ⟨j, hj, hmul⟩ := exists_four_mul_eq s k
  rw [hmul, ofRank_of_le s ((infinityRank_le_iff_of_four_mul s hj).mpr h)]

theorem isFinite_four_mul {x : Binary64} (hx : x.isFinite = true) (h : |x.toRat| < 2 ^ 1022) :
    (Coefficients.four.mul x).isFinite = true := by
  obtain ⟨s, k, rfl⟩ := exists_of_isFinite hx
  obtain ⟨j, hj, hmul⟩ := exists_four_mul_eq s k
  have hlt : j < infinityRank :=
    Nat.not_le.mp fun hle => not_le.mpr h ((infinityRank_le_iff_of_four_mul s hj).mp hle)
  rw [hmul, ofRank, dif_pos hlt]
  rfl

/-! ## 3. NaN -/

/-- A difference is NaN only if an operand is, or both are the same
infinity. -/
theorem sub_eq_nan_iff {x y : Binary64} :
    x.sub y = nan ↔ x = nan ∨ y = nan ∨ ∃ s, x = infinity s ∧ y = infinity s := by
  rw [sub_eq_iff]
  constructor
  · intro h
    cases h with
    | nan_left => exact .inl rfl
    | nan_right => exact .inr (.inl rfl)
    | like_infinities s => exact .inr (.inr ⟨s, rfl, rfl⟩)
    | finite h => exact absurd rfl h.ne_nan
  · rintro (rfl | rfl | ⟨s, rfl, rfl⟩)
    · exact .nan_left y
    · exact .nan_right x
    · exact .like_infinities s

end Binary64

namespace Coefficients

open Binary64

variable {a b c : Binary64}

theorem square_ne_nan (hb : b.isFinite = true) : b.mul b ≠ nan :=
  (square_isRounded hb).roundsTo.ne_nan

theorem square_eq_plus_iff (hb : b.isFinite = true) :
    b.mul b = infinity .plus ↔ overflowBound ≤ b.toRat ^ 2 :=
  (square_isRounded hb).roundsTo.eq_plus_iff

theorem square_ne_minus (b : Binary64) : b.mul b ≠ infinity .minus :=
  fun h => sign?_mul_self b (h ▸ rfl)

/-- The product is NaN if `4a` is infinite and `c` is zero. -/
theorem product_eq_nan_iff (ha : a.isFinite = true) (hc : c.isFinite = true) :
    (four.mul a).mul c = nan ↔ 2 ^ 1022 ≤ |a.toRat| ∧ c.toRat = 0 := by
  rcases lt_or_ge |a.toRat| (2 ^ 1022) with hsmall | hlarge
  · have hround := (four_product_isRounded ha hc (isFinite_four_mul ha hsmall)).roundsTo
    exact iff_of_false hround.ne_nan fun h => not_le.mpr hsmall h.1
  · obtain ⟨s, j, rfl⟩ := exists_of_isFinite ha
    obtain ⟨t, k, rfl⟩ := exists_of_isFinite hc
    rw [four_mul_eq_infinity hlarge, toRat_eq_zero_iff, mul]
    split <;> simp_all

/-- The product is positive infinity if `ac` is positive, and either `4a` or
`4ac` overflows. -/
theorem product_eq_plus_iff (ha : a.isFinite = true) (hc : c.isFinite = true) :
    (four.mul a).mul c = infinity .plus ↔
      0 < a.toRat * c.toRat ∧
        (2 ^ 1022 ≤ |a.toRat| ∨ overflowBound ≤ 4 * a.toRat * c.toRat) := by
  rcases lt_or_ge |a.toRat| (2 ^ 1022) with hsmall | hlarge
  · rw [(four_product_isRounded ha hc (isFinite_four_mul ha hsmall)).roundsTo.eq_plus_iff,
      or_iff_right (not_le.mpr hsmall), iff_and_self]
    intro h
    have hpos := overflowBound_pos.trans_le h
    linarith
  · obtain ⟨s, j, rfl⟩ := exists_of_isFinite ha
    obtain ⟨t, k, rfl⟩ := exists_of_isFinite hc
    have hj : j.val ≠ 0 := by
      intro hzero
      rw [(toRat_eq_zero_iff s j).mpr hzero, abs_zero] at hlarge
      exact not_lt.mpr hlarge (by positivity)
    rw [four_mul_eq_infinity hlarge, toRat_mul_pos_iff, and_iff_left (.inl hlarge), mul]
    by_cases hk : k.val = 0
    · rw [if_pos hk]
      exact iff_of_false Binary64.noConfusion fun h => h.2.2 hk
    · rw [if_neg hk, infinity.injEq, and_iff_left ⟨hj, hk⟩]

/-- Coefficients whose discriminant has no value: `4a` overflows and `c` is
zero, or both `b²` and `4ac` overflow to positive infinity. -/
def IsDegenerate (q : Coefficients) : Prop :=
  (2 ^ 1022 ≤ |q.a.toRat| ∧ q.c.toRat = 0) ∨
    (overflowBound ≤ q.b.toRat ^ 2 ∧ 0 < q.a.toRat * q.c.toRat ∧
      (2 ^ 1022 ≤ |q.a.toRat| ∨ overflowBound ≤ 4 * q.a.toRat * q.c.toRat))

instance (q : Coefficients) : Decidable q.IsDegenerate :=
  inferInstanceAs (Decidable (_ ∨ _))

theorem discriminant_eq_nan_iff {q : Coefficients} (ha : q.a.isFinite = true)
    (hb : q.b.isFinite = true) (hc : q.c.isFinite = true) :
    q.discriminant = nan ↔ q.IsDegenerate := by
  -- A square is no negative infinity.
  have hinfinities : (∃ s, q.b.mul q.b = infinity s ∧ (four.mul q.a).mul q.c = infinity s) ↔
      q.b.mul q.b = infinity .plus ∧ (four.mul q.a).mul q.c = infinity .plus := by
    constructor
    · rintro ⟨s, hsquare, hproduct⟩
      cases s with
      | plus => exact ⟨hsquare, hproduct⟩
      | minus => exact absurd hsquare (square_ne_minus q.b)
    · exact fun h => ⟨.plus, h⟩
  rw [discriminant, sub_eq_nan_iff, or_iff_right (square_ne_nan hb), hinfinities,
    product_eq_nan_iff ha hc, square_eq_plus_iff hb, product_eq_plus_iff ha hc, IsDegenerate]

/-! ## 4. The report -/

/-- Finite coefficients have NaN for a discriminant if they are degenerate,
and in no other case. The report says NaN above the line for no real roots
exactly then. In every other case the discriminant is finite or an
infinity, and its sign is the root count. -/
theorem degenerate_iff_reported (q : Coefficients) (ha : q.a.isFinite = true)
    (hb : q.b.isFinite = true) (hc : q.c.isFinite = true) :
    let e := Evaluation.of q
    (q.discriminant = nan ↔ q.IsDegenerate) ∧
    (Text.entry? "Discriminant = " e.report = some "NaN" ↔ q.IsDegenerate) ∧
    (q.IsDegenerate → (Text.lines e.report).getLast? = some "No real roots") ∧
    (¬ q.IsDegenerate →
      (q.discriminant.isFinite = true ∧ (e.rootCount = .two ↔ 0 < q.discriminant.toRat) ∧
        (e.rootCount = .one ↔ q.discriminant.toRat = 0) ∧
        (e.rootCount = .none ↔ q.discriminant.toRat < 0)) ∨
      (q.discriminant = infinity .plus ∧ e.rootCount = .two) ∨
      (q.discriminant = infinity .minus ∧ e.rootCount = .none)) := by
  intro e
  have hnan := discriminant_eq_nan_iff ha hb hc
  have hcount : e.rootCount = RootCount.ofDiscriminant q.discriminant := rfl
  refine ⟨hnan, ?_, fun h => ?_, fun h => ?_⟩
  · rw [e.entry?_discriminant_report, Option.some_inj, text_eq_nan_iff]
    exact hnan
  · rw [e.getLast?_lines_report, hcount, hnan.mpr h]
    rfl
  · rw [← hnan] at h
    rw [hcount]
    cases hd : q.discriminant with
    | nan => exact absurd hd h
    | infinity s =>
      cases s with
      | plus => exact .inr (.inl ⟨rfl, rfl⟩)
      | minus => exact .inr (.inr ⟨rfl, rfl⟩)
    | finite s k => exact .inl ⟨rfl, RootCount.ofDiscriminant_of_isFinite rfl⟩

/-- Coefficients whose discriminant would be 2¹⁰²⁴ less 2⁻⁵⁰: `b²` overflows,
and so does `4a`, but not `4ac`. -/
def overflowing : Coefficients :=
  ⟨ofBits 0xffd0000000000000, ofBits 0x5ff0000000000000, ofBits 0x8000000000000001⟩

theorem degenerate_overflowing :
    overflowing.a.isFinite = true ∧ overflowing.b.isFinite = true ∧
      overflowing.c.isFinite = true ∧ overflowing.IsDegenerate ∧
      4 * overflowing.a.toRat * overflowing.c.toRat < overflowBound ∧
      overflowing.discriminant = nan ∧
      Text.entry? "Discriminant = " (Evaluation.of overflowing).report = some "NaN" ∧
      (Text.lines (Evaluation.of overflowing).report).getLast? = some "No real roots" := by
  have ha : overflowing.a.isFinite = true := by decide +kernel
  have hb : overflowing.b.isFinite = true := by decide +kernel
  have hc : overflowing.c.isFinite = true := by decide +kernel
  have hdegenerate : overflowing.IsDegenerate := by decide +kernel
  have hproduct : 4 * overflowing.a.toRat * overflowing.c.toRat < overflowBound := by
    decide +kernel
  obtain ⟨hnan, hentry, hlast, -⟩ := degenerate_iff_reported overflowing ha hb hc
  exact ⟨ha, hb, hc, hdegenerate, hproduct, hnan.mpr hdegenerate, hentry.mpr hdegenerate,
    hlast hdegenerate⟩

end Coefficients

end Quadratic
