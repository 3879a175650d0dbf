/-
Quadratic.Proofs.FiniteRange — the nearest of the finite numbers, and the
values that are too large to have one.

Rounding is done on ranks, as if the exponent had no upper bound. What it
means for numbers is said here without ranks: a value goes to the finite
number at the smallest distance, over all finite numbers of both signs,
unless it is so large that it goes to an infinity.

* `infinityRank_le_iff` — a value is too large from `overflowBound` on, the
  point halfway between the largest finite number and 2¹⁰²⁴. That point
  itself is included, since the rank of infinity is even.
* `IsNearest.isNearestFinite` — below that, the nearest rank with the sign
  of the value is the nearest number.
* `RoundsTo` — both together: what rounding to nearest makes of a value,
  signs of zeros and infinities included. The nearest rank is the only one
  that meets it (`roundsTo_finite_iff`), so a value and a sign have one
  result (`RoundsTo.unique`).
-/
import Quadratic.Proofs.Arithmetic

namespace Quadratic.Binary64

/-! ## 1. The end of the finite numbers -/

/-- The magnitude from which on values are too large. -/
def overflowBound : ℚ := 2 ^ 1024 - 2 ^ 970

theorem halfway_last : halfway (infinityRank - 1) = overflowBound * (unitsPerOne : Nat) := by
  have hlast : infinityRank - 1 + 1 = infinityRank := rfl
  have hexponent : exponent (infinityRank - 1) = 2045 := by decide
  have hunits : (units infinityRank : ℚ) = 2 ^ 1024 * (unitsPerOne : Nat) := by
    rw [units_infinityRank, Nat.cast_mul (2 ^ 1024), Nat.cast_pow, Nat.cast_ofNat]
  have hstep : (units infinityRank : ℚ) = units (infinityRank - 1) + 2 ^ 2045 := by
    rw [← hlast, cast_units_succ, hlast, hexponent]
  -- The last step has 2²⁰⁴⁵ units, and half of it is 2⁹⁷⁰.
  have hhalf : (2 : ℚ) ^ 2045 = 2 * (2 ^ 970 * (unitsPerOne : Nat)) := by
    have hpow := congrArg (Nat.cast : Nat → ℚ) (two_pow_mul_unitsPerOne 971)
    rw [Nat.cast_mul (2 ^ 971), Nat.cast_pow, Nat.cast_pow 2 (971 + 1074), Nat.cast_ofNat] at hpow
    rw [← mul_assoc, ← pow_succ', hpow]
  rw [halfway_eq, hexponent, overflowBound, sub_mul, ← hunits, hstep, hhalf,
    mul_div_cancel_left₀ _ two_ne_zero, two_mul, ← add_assoc, add_sub_cancel_right]

/-- A value has no finite nearest rank exactly if it reaches the bound. -/
theorem infinityRank_le_iff {v : ℚ} {k : Nat} (h : IsNearest (v * (unitsPerOne : Nat)) k) :
    infinityRank ≤ k ↔ overflowBound ≤ v := by
  have hpos := cast_unitsPerOne_pos
  rw [← mul_le_mul_iff_left₀ hpos, ← halfway_last]
  constructor
  · intro hk
    have hk' : 0 < k := lt_of_lt_of_le (by decide) hk
    obtain ⟨j, rfl⟩ : ∃ j, k = j + 1 := ⟨k - 1, by omega⟩
    have hle := halfway_strictMono.monotone (show infinityRank - 1 ≤ j by omega)
    exact hle.trans h.halfway_le
  · intro hv
    by_contra hk
    have hle := halfway_strictMono.monotone (show k ≤ infinityRank - 1 by omega)
    rcases (isNearest_iff.mp h).2 with hhigh | ⟨hhigh, heven⟩
    · exact absurd (hle.trans hv) (not_le.mpr hhigh)
    · -- Only the last rank could be met halfway, and it is odd.
      rw [hhigh] at hv
      have hlast := halfway_strictMono.injective (le_antisymm hle hv)
      have hodd : (infinityRank - 1) % 2 = 1 := by decide
      omega

/-! ## 2. The nearest finite number -/

/-- The number of sign `s` and rank `k` is nearest to `v`: every finite
number with another value is further away, or just as far if the
significand of `k` is even. -/
def IsNearestFinite (v : ℚ) (s : Sign) (k : Fin infinityRank) : Prop :=
  ∀ t j, toRat (finite t j) ≠ toRat (finite s k) →
    |v - toRat (finite s k)| < |v - toRat (finite t j)| ∨
      (|v - toRat (finite s k)| = |v - toRat (finite t j)| ∧ significand k % 2 = 0)

theorem significand_mod_two (k : Nat) : significand k % 2 = k % 2 := by
  unfold significand
  split <;> omega

theorem toRat_flip (s : Sign) (k : Fin infinityRank) :
    toRat (finite s.flip k) = -toRat (finite s k) := by
  cases s with
  | plus => rw [Sign.flip, toRat_minus, toRat_plus]
  | minus => rw [Sign.flip, toRat_minus, toRat_plus, neg_neg]

theorem IsNearestFinite.neg {v : ℚ} {s : Sign} {k : Fin infinityRank}
    (h : IsNearestFinite v s k) : IsNearestFinite (-v) s.flip k := by
  have hdist : ∀ t j, |-v - toRat (finite t j)| = |v - toRat (finite t.flip j)| := by
    intro t j
    rw [toRat_flip, ← abs_neg]
    congr 1
    ring
  have hflip : s.flip.flip = s := by cases s <;> rfl
  intro t j hne
  rw [hdist, hdist, hflip]
  refine h t.flip j fun heq => hne ?_
  rw [toRat_flip s, ← heq, toRat_flip t, neg_neg]

/-- Distances are the same in units. -/
theorem abs_sub_toRat_plus (v : ℚ) (j : Fin infinityRank) :
    |v - toRat (finite .plus j)| = |v * (unitsPerOne : Nat) - units j| / (unitsPerOne : Nat) := by
  have hpos := cast_unitsPerOne_pos
  rw [toRat_plus, eq_div_iff hpos.ne', ← abs_of_pos hpos, ← abs_mul, abs_of_pos hpos, sub_mul,
    div_mul_cancel₀ _ hpos.ne']

/-- A negative number is further away from a value that is not negative
than the positive one of the same rank. -/
theorem abs_sub_toRat_minus {v : ℚ} (hv : 0 ≤ v) (j : Fin infinityRank) :
    |v - toRat (finite .plus j)| ≤ |v - toRat (finite .minus j)| := by
  have hj : (0 : ℚ) ≤ units j / (unitsPerOne : Nat) :=
    div_nonneg (Nat.cast_nonneg _) cast_unitsPerOne_pos.le
  rw [toRat_plus, toRat_minus, sub_neg_eq_add, abs_of_nonneg (add_nonneg hv hj), abs_le]
  constructor <;> linarith

theorem IsNearest.isNearestFinite_plus {v : ℚ} (hv : 0 ≤ v) {k : Fin infinityRank}
    (h : IsNearest (v * (unitsPerOne : Nat)) k) : IsNearestFinite v .plus k := by
  have hpos := cast_unitsPerOne_pos
  -- Among the positive numbers, and with it among the ranks.
  have hplus : ∀ j : Fin infinityRank, j ≠ k →
      |v - toRat (finite .plus k)| < |v - toRat (finite .plus j)| ∨
        (|v - toRat (finite .plus k)| = |v - toRat (finite .plus j)| ∧ significand k % 2 = 0) := by
    intro j hjk
    rw [abs_sub_toRat_plus, abs_sub_toRat_plus, div_lt_div_iff_of_pos_right hpos,
      div_left_inj' hpos.ne', significand_mod_two]
    exact h j fun hval => hjk (Fin.ext hval)
  intro t j hne
  cases t with
  | plus => exact hplus j fun hjk => hne (by rw [hjk])
  | minus =>
    by_cases hjk : j = k
    · subst hjk
      -- The two numbers of one rank differ, so that neither the rank nor the
      -- value is zero.
      have hunits : (0 : ℚ) < toRat (finite .plus j) := by
        refine lt_of_le_of_ne ?_ fun hzero => hne ?_
        · rw [toRat_plus]
          exact div_nonneg (Nat.cast_nonneg _) hpos.le
        · have hflip := toRat_flip .plus j
          rw [Sign.flip, ← hzero, neg_zero] at hflip
          rw [hflip, ← hzero]
      have hv' : 0 < v := by
        refine lt_of_le_of_ne hv fun hzero => ?_
        rw [← hzero, zero_mul] at h
        rw [toRat_plus, h.unique isNearest_zero, units_zero, Nat.cast_zero, zero_div] at hunits
        exact lt_irrefl _ hunits
      have hflip := toRat_flip .plus j
      rw [Sign.flip] at hflip
      left
      rw [hflip, sub_neg_eq_add, abs_of_pos (add_pos hv' hunits), abs_lt]
      constructor <;> linarith
    · have hle := abs_sub_toRat_minus hv j
      rcases hplus j hjk with hlt | ⟨heq, heven⟩
      · exact .inl (hlt.trans_le hle)
      · rcases hle.lt_or_eq with hlt | heq'
        · exact .inl (heq ▸ hlt)
        · exact .inr ⟨heq.trans heq', heven⟩

/-- The nearest rank, with the sign of the value, is the nearest number. A
zero may have either sign. -/
theorem IsNearest.isNearestFinite {v : ℚ} (hv : 0 ≤ v) {k : Fin infinityRank}
    (h : IsNearest (v * (unitsPerOne : Nat)) k) (s : Sign) :
    IsNearestFinite (s.apply 1 * v) s k := by
  have hplus := h.isNearestFinite_plus hv
  cases s with
  | plus =>
    rw [Sign.apply, Nat.cast_one, Int.cast_one, one_mul]
    exact hplus
  | minus =>
    rw [Sign.apply, Nat.cast_one, Int.cast_neg, Int.cast_one, neg_one_mul]
    exact hplus.neg

/-! ## 3. Rounding -/

/-- A sign that goes with a value. Zero goes with either. -/
def Carries (v : ℚ) : Sign → Prop
  | .plus => 0 ≤ v
  | .minus => v ≤ 0

/-- What rounding to nearest makes of a value: the nearest finite number, and
from the bound on an infinity, with a sign of the value. -/
inductive RoundsTo (v : ℚ) : Binary64 → Prop
  | finite {s : Sign} {k : Fin infinityRank} (hs : Carries v s) (hv : |v| < overflowBound)
      (h : IsNearestFinite v s k) : RoundsTo v (finite s k)
  | infinity {s : Sign} (hs : Carries v s) (hv : overflowBound ≤ |v|) : RoundsTo v (infinity s)

/-- The sign of a number that is not NaN. -/
def sign? : Binary64 → Option Sign
  | nan => none
  | infinity s => some s
  | finite s _ => some s

theorem sign?_ofRank (s : Sign) (k : Nat) : (ofRank s k).sign? = some s := by
  unfold ofRank
  split <;> rfl

theorem sign?_mul (s t : Sign) (j k : Fin infinityRank) :
    ((finite s j).mul (finite t k)).sign? = some (s.mul t) := by
  rw [mul, ofRatio, sign?_ofRank]

theorem Carries.eq_apply {v : ℚ} {s : Sign} (h : Carries v s) : v = s.apply 1 * |v| := by
  cases s with
  | plus => rw [Sign.apply, Nat.cast_one, Int.cast_one, one_mul, abs_of_nonneg h]
  | minus =>
    rw [Sign.apply, Nat.cast_one, Int.cast_neg, Int.cast_one, neg_one_mul, abs_of_nonpos h, neg_neg]

theorem Carries.unique {v : ℚ} {s t : Sign} (hs : Carries v s) (ht : Carries v t) (hv : v ≠ 0) :
    s = t := by
  have hzero : 0 ≤ v → v ≤ 0 → s = t := fun hle hge => absurd (le_antisymm hge hle) hv
  cases s with
  | plus =>
    cases t with
    | plus => rfl
    | minus => exact hzero hs ht
  | minus =>
    cases t with
    | plus => exact hzero ht hs
    | minus => rfl

/-- The distance to a number of the same sign, in units. -/
theorem Carries.abs_sub_toRat {v : ℚ} {s : Sign} (h : Carries v s) (j : Fin infinityRank) :
    |v - toRat (finite s j)| =
      |(|v| * (unitsPerOne : Nat) - units j)| / (unitsPerOne : Nat) := by
  rw [← abs_sub_toRat_plus]
  cases s with
  | plus => rw [abs_of_nonneg h]
  | minus =>
    rw [abs_of_nonpos h, show Sign.minus = Sign.plus.flip from rfl, toRat_flip, ← abs_neg]
    congr 1
    ring

theorem toRat_finite_injective (s : Sign) :
    Function.Injective fun j : Fin infinityRank => toRat (finite s j) := by
  intro j k h
  have hpos := cast_unitsPerOne_pos
  cases s with
  | plus =>
    simp only [toRat_plus, div_left_inj' hpos.ne', Nat.cast_inj] at h
    exact Fin.ext (units_strictMono.injective h)
  | minus =>
    simp only [toRat_minus, neg_inj, div_left_inj' hpos.ne', Nat.cast_inj] at h
    exact Fin.ext (units_strictMono.injective h)

/-- The nearest number has the nearest rank. -/
theorem IsNearestFinite.isNearest {v : ℚ} {s : Sign} {k : Fin infinityRank} (hs : Carries v s)
    (hv : |v| < overflowBound) (h : IsNearestFinite v s k) :
    IsNearest (|v| * (unitsPerOne : Nat)) k := by
  have hpos := cast_unitsPerOne_pos
  obtain ⟨j, hj⟩ := exists_isNearest (mul_nonneg (abs_nonneg v) hpos.le)
  have hlt : j < infinityRank :=
    Nat.not_le.mp fun hle => not_le.mpr hv ((infinityRank_le_iff hj).mp hle)
  by_cases hjk : j = k
  · exact hjk ▸ hj
  -- Otherwise the two ranks are equally near and both even, so that either of
  -- them is nearest.
  have hne : (⟨j, hlt⟩ : Fin infinityRank) ≠ k := fun heq => hjk (congrArg Fin.val heq)
  have hcompare := h s ⟨j, hlt⟩ fun heq => hne (toRat_finite_injective s heq)
  rw [hs.abs_sub_toRat, hs.abs_sub_toRat, div_lt_div_iff_of_pos_right hpos,
    div_left_inj' hpos.ne', significand_mod_two] at hcompare
  have hle := (hj k (Ne.symm hjk)).elim le_of_lt fun heq => heq.1.le
  rcases hcompare with hlt' | ⟨heq, heven⟩
  · exact absurd hlt' (not_lt.mpr hle)
  · intro i hik
    by_cases hij : i = j
    · exact .inr ⟨hij ▸ heq, heven⟩
    · rw [heq]
      exact (hj i hij).imp_right fun hi => ⟨hi.1, heven⟩

theorem roundsTo_finite_iff {v : ℚ} {s : Sign} {k : Fin infinityRank} :
    RoundsTo v (finite s k) ↔ Carries v s ∧ IsNearest (|v| * (unitsPerOne : Nat)) k := by
  constructor
  · intro h
    cases h with
    | finite hs hv hk => exact ⟨hs, hk.isNearest hs hv⟩
  · rintro ⟨hs, hk⟩
    have hv : |v| < overflowBound :=
      not_le.mp fun hle => Nat.not_le.mpr k.isLt ((infinityRank_le_iff hk).mpr hle)
    refine .finite hs hv ?_
    rw [hs.eq_apply]
    exact hk.isNearestFinite (abs_nonneg v) s

/-- The nearest rank with a sign of the value is what the value rounds to,
also past the finite ranks. -/
theorem roundsTo_ofRank {v : ℚ} {s : Sign} {k : Nat} (hs : Carries v s)
    (hk : IsNearest (|v| * (unitsPerOne : Nat)) k) : RoundsTo v (ofRank s k) := by
  by_cases hlt : k < infinityRank
  · have hfin := ofRank_fin s ⟨k, hlt⟩
    rw [hfin]
    exact roundsTo_finite_iff.mpr ⟨hs, hk⟩
  · have hle := Nat.not_lt.mp hlt
    rw [ofRank_of_le s hle]
    exact .infinity hs ((infinityRank_le_iff hk).mp hle)

theorem IsRounded.roundsTo {v : ℚ} {x : Binary64} (h : IsRounded v x) : RoundsTo v x := by
  cases h with
  | plus hv hk => exact roundsTo_ofRank hv (by rwa [abs_of_nonneg hv])
  | minus hv hk => exact roundsTo_ofRank hv (by rwa [abs_of_nonpos hv])

/-- A value has one result. Of zero the sign has to be known. -/
theorem RoundsTo.unique {v : ℚ} {x y : Binary64} (hx : RoundsTo v x) (hy : RoundsTo v y)
    (hzero : v = 0 → x.sign? = y.sign?) : x = y := by
  have hsign : ∀ {s t : Sign}, Carries v s → Carries v t → (v = 0 → some s = some t) → s = t := by
    intro s t hs ht hst
    by_cases hv : v = 0
    · exact Option.some.inj (hst hv)
    · exact hs.unique ht hv
  cases hx with
  | finite hs hv hj =>
    cases hy with
    | finite ht _ hk =>
      obtain rfl := hsign hs ht hzero
      rw [Fin.ext ((hj.isNearest hs hv).unique (hk.isNearest ht hv))]
    | infinity _ hv' => exact absurd hv (not_lt.mpr hv')
  | infinity hs hv =>
    cases hy with
    | finite _ hv' => exact absurd hv' (not_lt.mpr hv)
    | infinity ht _ => rw [hsign hs ht hzero]

end Quadratic.Binary64
