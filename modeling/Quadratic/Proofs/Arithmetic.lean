/-
Quadratic.Proofs.Arithmetic — what the operations do to exact values.

The exact value of a finite number is a rational number (`toRat`).
`IsRounded v x` says that `x` is what `v` rounds to: the nearest rank
with the sign of `v`, and an infinity if that rank is past the finite
ones. A value of zero may have either sign.

* `IsRounded.le` — rounding keeps the order, over all numbers, zeros and
  infinities included.
* `mul_isRounded`, `sub_isRounded`, `ofDecimal_isRounded` — a product, a
  difference, and a decimal that is read are the exact value, rounded
  once.
* `zero_lt_sub`, `sub_lt_zero` — a difference has the sign of the
  comparison of its operands. It may be rounded, but never to zero or
  past it: two numbers that differ are at least one unit apart, and one
  unit is a number of the format. For finite numbers the comparison is
  that of their values (`lt_iff_toRat_lt`).
* `toRat_four_mul` — four times a number is exact unless it overflows.
-/
import Mathlib.Tactic.Ring
import Quadratic.Coefficients
import Quadratic.Proofs.Nearest

namespace Quadratic

theorem Sign.mul_self (s : Sign) : s.mul s = .plus := by cases s <;> rfl

theorem Sign.mul_comm (s t : Sign) : s.mul t = t.mul s := by cases s <;> cases t <;> rfl

namespace Binary64

/-! ## 1. Exact values -/

/-- The exact value of a finite number. NaN and the infinities have none
and are sent to zero. -/
def toRat : Binary64 → ℚ
  | finite s k => signedUnits s k / (unitsPerOne : Nat)
  | _ => 0

theorem cast_unitsPerOne_pos : (0 : ℚ) < (unitsPerOne : Nat) := Nat.cast_pos.mpr unitsPerOne_pos

@[simp] theorem toRat_plus (k : Fin infinityRank) :
    toRat (finite .plus k) = units k / (unitsPerOne : Nat) := by
  simp only [toRat, signedUnits, Sign.apply, Int.cast_natCast]

@[simp] theorem toRat_minus (k : Fin infinityRank) :
    toRat (finite .minus k) = -(units k / (unitsPerOne : Nat)) := by
  simp only [toRat, signedUnits, Sign.apply, Int.cast_neg, Int.cast_natCast, neg_div]

/-! ## 2. Rounded values -/

/-- `x` is what `v` rounds to. -/
inductive IsRounded (v : ℚ) : Binary64 → Prop
  | plus {k : Nat} (hv : 0 ≤ v) (h : IsNearest (v * (unitsPerOne : Nat)) k) :
      IsRounded v (ofRank .plus k)
  | minus {k : Nat} (hv : v ≤ 0) (h : IsNearest (-v * (unitsPerOne : Nat)) k) :
      IsRounded v (ofRank .minus k)

theorem signedRank_ofRank (s : Sign) (k : Nat) :
    (ofRank s k).signedRank = some (s.apply (min k infinityRank)) := by
  unfold ofRank
  split
  · rename_i h
    rw [signedRank, Nat.min_eq_left (Nat.le_of_lt h)]
  · rename_i h
    rw [signedRank, Nat.min_eq_right (Nat.not_lt.mp h)]

theorem le_ofRank_iff (s t : Sign) (j k : Nat) :
    (ofRank s j).le (ofRank t k) = true ↔
      s.apply (min j infinityRank) ≤ t.apply (min k infinityRank) := by
  simp only [le, signedRank_ofRank, decide_eq_true_eq]

/-- Rounding keeps the order. -/
theorem IsRounded.le {v w : ℚ} {x y : Binary64} (hx : IsRounded v x) (hy : IsRounded w y)
    (h : v ≤ w) : x.le y = true := by
  have hU := cast_unitsPerOne_pos
  cases hx with
  | @plus j hv hj =>
    cases hy with
    | @plus k _ hk =>
      have hjk := hj.mono hk (mul_le_mul_of_nonneg_right h hU.le)
      rw [le_ofRank_iff]
      simp only [Sign.apply]
      omega
    | @minus k hw hk =>
      -- Both values are zero, and so are both ranks.
      obtain rfl : v = 0 := le_antisymm (h.trans hw) hv
      obtain rfl : w = 0 := le_antisymm hw h
      rw [zero_mul] at hj
      rw [neg_zero, zero_mul] at hk
      rw [hj.unique isNearest_zero, hk.unique isNearest_zero]
      rfl
  | @minus j _ hj =>
    cases hy with
    | @plus k _ _ =>
      rw [le_ofRank_iff]
      simp only [Sign.apply]
      omega
    | @minus k _ hk =>
      have hkj := hk.mono hj (mul_le_mul_of_nonneg_right (neg_le_neg h) hU.le)
      rw [le_ofRank_iff]
      simp only [Sign.apply]
      omega

/-! ## 3. Products -/

/-- A product of finite numbers is the exact product, rounded once. -/
theorem mul_isRounded (s t : Sign) (j k : Fin infinityRank) :
    IsRounded (toRat (finite s j) * toRat (finite t k)) (mul (finite s j) (finite t k)) := by
  have hU := cast_unitsPerOne_pos
  have hnear := nearestRank_isNearest (units j * units k) unitsPerOne_pos
  have hvalue : ((units j * units k : Nat) : ℚ) / (unitsPerOne : Nat) =
      (units j / (unitsPerOne : Nat)) * (units k / (unitsPerOne : Nat)) * (unitsPerOne : Nat) := by
    rw [Nat.cast_mul (units j)]
    field_simp
  rw [hvalue] at hnear
  have hnonneg : (0 : ℚ) ≤ (units j / (unitsPerOne : Nat)) * (units k / (unitsPerOne : Nat)) :=
    mul_nonneg (div_nonneg (Nat.cast_nonneg _) hU.le) (div_nonneg (Nat.cast_nonneg _) hU.le)
  unfold mul ofRatio
  cases s with
  | plus =>
    cases t with
    | plus =>
      rw [toRat_plus, toRat_plus]
      exact .plus hnonneg hnear
    | minus =>
      rw [toRat_plus, toRat_minus, mul_neg]
      exact .minus (neg_nonpos.mpr hnonneg) (by rwa [neg_neg])
  | minus =>
    cases t with
    | plus =>
      rw [toRat_plus, toRat_minus, neg_mul]
      exact .minus (neg_nonpos.mpr hnonneg) (by rwa [neg_neg])
    | minus =>
      rw [toRat_minus, toRat_minus, neg_mul_neg]
      exact .plus hnonneg hnear

/-- An operation whose exact result is a number of the format is exact. -/
theorem ofRatio_units_mul (s : Sign) (k : Nat) {den : Nat} (hden : 0 < den) :
    ofRatio s (units k * den) den = ofRank s k := by
  refine ofRatio_of_isNearest s hden ?_
  have hden' : (den : ℚ) ≠ 0 := by exact_mod_cast hden.ne'
  rw [Nat.cast_mul, mul_div_cancel_right₀ _ hden']
  exact isNearest_units k

/-- Four times a magnitude is again one, if the exponent has no upper
bound. -/
theorem exists_units_eq_four_mul (k : Nat) : ∃ j, units j = 4 * units k := by
  have hle := Nat.le_of_lt (isSignificand_significand k).1
  obtain ⟨j, hj⟩ := exists_rank_of_le hle (exponent k + 2)
  exact ⟨j, by rw [hj, units, pow_add]; ring⟩

/-- The number four has the value four. -/
theorem exists_four_eq : ∃ k : Fin infinityRank,
    Coefficients.four = finite .plus k ∧ units k = 4 * unitsPerOne := by
  obtain ⟨k, hk⟩ := exists_rank_of_le (show 1 ≤ 2 ^ 53 by omega) (2 + 1074)
  rw [Nat.one_mul, ← two_pow_mul_unitsPerOne, show 2 ^ 2 = 4 from rfl] at hk
  have hlt : k < infinityRank := lt_infinityRank hk (by decide +kernel)
  refine ⟨⟨k, hlt⟩, ?_, hk⟩
  have hfour : Coefficients.four = ofRatio .plus (units k * 1) 1 := by
    have hsign : Sign.ofInt 4 = .plus := rfl
    have habs : (4 : Int).natAbs = 4 := rfl
    rw [Coefficients.four, ofInt, hsign, habs, hk, Nat.mul_one]
  rw [hfour, ofRatio_units_mul _ _ one_pos]
  exact ofRank_fin .plus ⟨k, hlt⟩

/-- Four times a finite number, if the exponent had no upper bound. -/
theorem exists_four_mul_eq (s : Sign) (k : Fin infinityRank) :
    ∃ j, units j = 4 * units k ∧ Coefficients.four.mul (finite s k) = ofRank s j := by
  obtain ⟨f, hf, hfour⟩ := exists_four_eq
  obtain ⟨j, hj⟩ := exists_units_eq_four_mul k
  have hprod : units f * units k = units j * unitsPerOne := by
    rw [hfour, hj, Nat.mul_right_comm]
  have hsign : Sign.plus.mul s = s := rfl
  exact ⟨j, hj, by rw [hf, mul, hprod, ofRatio_units_mul _ _ unitsPerOne_pos, hsign]⟩

/-- Four times a finite number is exact unless it overflows. -/
theorem toRat_four_mul {x : Binary64} (hx : x.isFinite = true)
    (h : (Coefficients.four.mul x).isFinite = true) :
    toRat (Coefficients.four.mul x) = 4 * toRat x := by
  obtain ⟨s, k, rfl⟩ := exists_of_isFinite hx
  obtain ⟨j, hj, hmul⟩ := exists_four_mul_eq s k
  rw [hmul] at h ⊢
  by_cases hlt : j < infinityRank
  · rw [show ofRank s j = finite s ⟨j, hlt⟩ from ofRank_fin s ⟨j, hlt⟩]
    cases s with
    | plus =>
      rw [toRat_plus, toRat_plus, hj, Nat.cast_mul, Nat.cast_ofNat, mul_div_assoc]
    | minus =>
      rw [toRat_minus, toRat_minus, hj, Nat.cast_mul, Nat.cast_ofNat, mul_div_assoc, mul_neg]
  · rw [ofRank_of_le s (Nat.not_lt.mp hlt)] at h
    simp [isFinite] at h

/-! ## 4. Differences -/

/-- Ranks with signs are in the order of their exact values. -/
theorem signedUnits_lt_iff (s t : Sign) (j k : Nat) :
    signedUnits s j < signedUnits t k ↔ s.apply j < t.apply k := by
  have hjk := units_strictMono.lt_iff_lt (a := j) (b := k)
  have hkj := units_strictMono.lt_iff_lt (a := k) (b := j)
  have hj := units_strictMono.lt_iff_lt (a := 0) (b := j)
  have hk := units_strictMono.lt_iff_lt (a := 0) (b := k)
  rw [units_zero] at hj hk
  cases s <;> cases t <;> simp only [signedUnits, Sign.apply] <;> omega

/-- Finite numbers are in the order of their values. -/
theorem lt_iff_toRat_lt {x y : Binary64} (hx : x.isFinite = true) (hy : y.isFinite = true) :
    x.lt y = true ↔ x.toRat < y.toRat := by
  obtain ⟨s, j, rfl⟩ := exists_of_isFinite hx
  obtain ⟨t, k, rfl⟩ := exists_of_isFinite hy
  have hunits := signedUnits_lt_iff s t j k
  rw [toRat, toRat, div_lt_div_iff_of_pos_right cast_unitsPerOne_pos, Int.cast_lt, hunits]
  simp only [lt, signedRank, decide_eq_true_eq]

theorem isRounded_zero (s : Sign) : IsRounded 0 (zero s) := by
  rw [← ofRank_zero]
  cases s with
  | plus => exact .plus le_rfl (by rw [zero_mul]; exact isNearest_zero)
  | minus => exact .minus le_rfl (by rw [neg_zero, zero_mul]; exact isNearest_zero)

/-- A whole number of units, rounded. -/
theorem isRounded_ofRatio_natAbs (d : Int) :
    IsRounded (d / (unitsPerOne : Nat)) (ofRatio (Sign.ofInt d) d.natAbs 1) := by
  have hU := cast_unitsPerOne_pos
  have hnear := nearestRank_isNearest d.natAbs one_pos
  rw [Nat.cast_one, div_one] at hnear
  unfold ofRatio Sign.ofInt
  by_cases hd : d < 0
  · have hd' : (d : ℚ) < 0 := by exact_mod_cast hd
    have habs : ((d.natAbs : Nat) : ℚ) = -(d / (unitsPerOne : Nat)) * (unitsPerOne : Nat) := by
      rw [Nat.cast_natAbs, abs_of_neg hd, Int.cast_neg, neg_mul, div_mul_cancel₀ _ hU.ne']
    rw [if_pos hd]
    exact .minus (div_nonpos_of_nonpos_of_nonneg hd'.le hU.le) (habs ▸ hnear)
  · have hd' : (0 : ℚ) ≤ d := by exact_mod_cast Int.not_lt.mp hd
    have habs : ((d.natAbs : Nat) : ℚ) = d / (unitsPerOne : Nat) * (unitsPerOne : Nat) := by
      rw [Nat.cast_natAbs, abs_of_nonneg (Int.not_lt.mp hd), div_mul_cancel₀ _ hU.ne']
    rw [if_neg hd]
    exact .plus (div_nonneg hd' hU.le) (habs ▸ hnear)

/-- A difference of finite numbers is the exact difference, rounded once. -/
theorem sub_isRounded (s t : Sign) (j k : Fin infinityRank) :
    IsRounded (toRat (finite s j) - toRat (finite t k)) ((finite s j).sub (finite t k)) := by
  rw [toRat, toRat, ← sub_div, ← Int.cast_sub, sub]
  split
  · rename_i hd
    rw [hd, Int.cast_zero, zero_div]
    exact isRounded_zero _
  · exact isRounded_ofRatio_natAbs _

/-- A whole number of units that is not zero does not round to zero. -/
theorem nearestRank_pos {n : Nat} (h : 0 < n) : 0 < nearestRank n 1 := by
  have hnear := nearestRank_isNearest n one_pos
  rw [Nat.cast_one, div_one] at hnear
  refine (isNearest_units 1).mono hnear ?_
  rw [units_one]
  exact_mod_cast h

/-- A rounded difference has the sign of the exact one. -/
theorem sign_ofRatio_natAbs {d : Int} (hd : d ≠ 0) :
    ∃ r, (ofRatio (Sign.ofInt d) d.natAbs 1).signedRank = some r ∧
      (0 < r ↔ 0 < d) ∧ (r < 0 ↔ d < 0) := by
  have hpos : 0 < nearestRank d.natAbs 1 := nearestRank_pos (by omega)
  have hmin : 0 < min (nearestRank d.natAbs 1) infinityRank := lt_min hpos (by decide)
  refine ⟨_, signedRank_ofRank _ _, ?_⟩
  generalize min (nearestRank d.natAbs 1) infinityRank = m at hmin
  unfold Sign.ofInt
  split
  · simp only [Sign.apply]
    omega
  · simp only [Sign.apply]
    omega

/-- A difference that is a number stands to zero as its operands stand to
each other. -/
theorem sign_sub {x y : Binary64} (h : x.sub y ≠ nan) :
    ∃ r i j, (x.sub y).signedRank = some r ∧ x.signedRank = some i ∧ y.signedRank = some j ∧
      (0 < r ↔ j < i) ∧ (r < 0 ↔ i < j) := by
  cases x with
  | nan => exact absurd rfl h
  | infinity s =>
    cases y with
    | nan => exact absurd rfl h
    | infinity t =>
      -- Infinities of one sign have no difference.
      have hst : s ≠ t := by
        rintro rfl
        exact h (if_pos rfl)
      refine ⟨s.apply infinityRank, _, _, ?_, rfl, rfl, ?_⟩
      · rw [sub, if_neg hst, signedRank]
      · cases s <;> cases t <;> simp [Sign.apply] at hst ⊢
    | finite t k =>
      have hk := k.isLt
      refine ⟨s.apply infinityRank, _, _, rfl, rfl, rfl, ?_⟩
      cases s <;> cases t <;> simp only [Sign.apply] <;> omega
  | finite s j =>
    cases y with
    | nan => exact absurd rfl h
    | infinity t =>
      have hj := j.isLt
      refine ⟨t.flip.apply infinityRank, _, _, rfl, rfl, rfl, ?_⟩
      cases s <;> cases t <;> simp only [Sign.apply, Sign.flip] <;> omega
    | finite t k =>
      have hlt := signedUnits_lt_iff s t j k
      have hgt := signedUnits_lt_iff t s k j
      by_cases hd : signedUnits s j - signedUnits t k = 0
      · refine ⟨0, _, _, ?_, rfl, rfl, ?_⟩
        · simp only [sub, if_pos hd]
          cases zeroDifferenceSign s t <;> rfl
        · omega
      · obtain ⟨r, hr, hpos, hneg⟩ := sign_ofRatio_natAbs hd
        refine ⟨r, _, _, ?_, rfl, rfl, ?_⟩
        · simp only [sub, if_neg hd, hr]
        · omega

/-- A difference that is a number is positive exactly if the first
operand is the larger one. -/
theorem zero_lt_sub {x y : Binary64} (h : x.sub y ≠ nan) :
    (zero .plus).lt (x.sub y) = true ↔ y.lt x = true := by
  obtain ⟨r, i, j, hr, hi, hj, hpos, -⟩ := sign_sub h
  have hzero : (zero .plus).signedRank = some 0 := rfl
  simp only [lt, hr, hi, hj, hzero, decide_eq_true_eq]
  exact hpos

/-- A difference that is a number is negative exactly if the first
operand is the smaller one. -/
theorem sub_lt_zero {x y : Binary64} (h : x.sub y ≠ nan) :
    (x.sub y).lt (zero .plus) = true ↔ x.lt y = true := by
  obtain ⟨r, i, j, hr, hi, hj, -, hneg⟩ := sign_sub h
  have hzero : (zero .plus).signedRank = some 0 := rfl
  simp only [lt, hr, hi, hj, hzero, decide_eq_true_eq]
  exact hneg

/-! ## 5. Decimals -/

/-- A decimal is read as its exact value, rounded once. -/
theorem ofDecimal_isRounded (s : Sign) (c : Nat) (e : Int) :
    IsRounded (s.apply c * 10 ^ e) (ofDecimal s c e) := by
  have hnonneg : (0 : ℚ) ≤ c * 10 ^ e :=
    mul_nonneg (Nat.cast_nonneg c) (zpow_nonneg (by norm_num) e)
  obtain ⟨k, hk⟩ := exists_isNearest (mul_nonneg hnonneg cast_unitsPerOne_pos.le)
  rw [ofDecimal_of_isNearest s hk]
  cases s with
  | plus =>
    rw [Sign.apply, Int.cast_natCast]
    exact .plus hnonneg hk
  | minus =>
    rw [Sign.apply, Int.cast_neg, Int.cast_natCast, neg_mul]
    exact .minus (neg_nonpos.mpr hnonneg) (by rwa [neg_neg])

end Binary64

end Quadratic
