/-
Quadratic.Proofs.FewestDigits — no decimal that rounds to a number is
shorter than its shortest one, and none of that length is closer.

The search stops at the coarsest power of ten with a multiple in the
interval of the number. Fewer digits would mean a coarser grid: between a
decimal with fewer digits and the one that was found there is a power of
ten, it rounds to the number too, and it lies on all grids up to its own
size. So everything rests on `not_isNearest_of_exponent_lt`.

The same argument takes care of decimals on finer grids, with one
exception. A power of ten may be found, with a single digit on a finer
grid right below it. For numbers of more than nine units such a digit is
outside the interval, and among the others there is one power of ten,
10⁻³²³, which is the closer of the two (`abs_sub_ten_pow_le`).

* `IsNearest.convex` — the values that round to a number have no gaps.
* `exists_multiple?` — the search finds the closest multiple on a grid.
* `exists_shortest` — the grid at which it stops.
* `isTrimmed_digits` — neither end of the digits is a zero.
* `shortest_fewest_closest` — what the shortest decimal is.
-/
import Quadratic.Proofs.FiniteRange
import Quadratic.Proofs.RoundTrip

namespace Quadratic

/-! ## 1. Values without gaps -/

/-- What lies between two values that round to a number rounds to it. -/
theorem Binary64.IsNearest.convex {x y z : ℚ} {k : Nat} (hx : IsNearest x k) (hz : IsNearest z k)
    (hxy : x ≤ y) (hyz : y ≤ z) : IsNearest y k := by
  rw [isNearest_iff] at hx hz ⊢
  constructor
  · intro j hj
    rcases hx.1 j hj with hlow | ⟨hlow, heven⟩
    · exact .inl (hlow.trans_le hxy)
    · exact hxy.lt_or_eq.imp (hlow ▸ ·) fun heq => ⟨hlow.trans heq, heven⟩
  · rcases hz.2 with hhigh | ⟨hhigh, heven⟩
    · exact .inl (hyz.trans_lt hhigh)
    · exact hyz.lt_or_eq.imp (hhigh ▸ ·) fun heq => ⟨heq.trans hhigh, heven⟩

namespace Decimal

open Binary64

theorem Interval.contains_of_between {i : Interval} {l m n : Nat} (hl : i.contains l = true)
    (hn : i.contains n = true) (hlm : l ≤ m) (hmn : m ≤ n) : i.contains m = true := by
  unfold Interval.contains at hl hn ⊢
  cases hclosed : i.closed <;> simp [hclosed] at hl hn ⊢ <;> omega

/-! ## 2. The closest multiple -/

/-- If a grid has a multiple in the interval, one is found, and no other is
closer. -/
theorem Interval.exists_multiple? {i : Interval} (hvalue : i.contains i.value = true)
    {step n : Nat} (hstep : 0 < step) (hn : i.contains (n * step) = true) :
    ∃ c, i.multiple? step = some c ∧
      ((i.value : Int) - (c * step : Nat)).natAbs ≤
        ((i.value : Int) - (n * step : Nat)).natAbs := by
  have hdiv := Nat.div_add_mod' i.value step
  have hmod := Nat.mod_lt i.value hstep
  unfold Interval.multiple?
  dsimp only
  generalize i.value / step = c at hdiv ⊢
  generalize i.value % step = r at hdiv hmod ⊢
  have hsucc : (c + 1) * step = c * step + step := Nat.succ_mul c step
  -- The multiple at hand is on one side of the value, and the neighbour of the
  -- value on that side is in between.
  rcases Nat.lt_or_ge c n with hlt | hge
  · have hle : (c + 1) * step ≤ n * step := Nat.mul_le_mul_right step hlt
    have hhigh := contains_of_between hvalue hn (by omega) hle
    rw [hhigh]
    cases i.contains (c * step) with
    | true =>
      dsimp only
      split
      · exact ⟨c, rfl, by omega⟩
      · exact ⟨c + 1, rfl, by omega⟩
    | false => exact ⟨c + 1, rfl, by omega⟩
  · have hle : n * step ≤ c * step := Nat.mul_le_mul_right step hge
    have hlow := contains_of_between hn hvalue hle (by omega)
    rw [hlow]
    cases i.contains ((c + 1) * step) with
    | true =>
      dsimp only
      split
      · exact ⟨c, rfl, by omega⟩
      · exact ⟨c + 1, rfl, by omega⟩
    | false => exact ⟨c, rfl, by omega⟩

/-! ## 3. The coarsest grid -/

/-- The interval of a number reaches at most half of the number beyond
it, and not down to zero. -/
theorem bounds_of_contains {k n : Nat} (hk : 0 < k)
    (h : (Interval.ofRank k).contains n = true) : 0 < n ∧ 2 * n ≤ 3 * scaled k := by
  have hunits : units (k + 1) ≤ 2 * units k := by
    have hsignificand : 0 < significand k := by
      unfold significand
      split <;> omega
    have hstep := Nat.le_mul_of_pos_left (2 ^ Binary64.exponent k) hsignificand
    rw [units_succ]
    unfold units at hstep ⊢
    omega
  have hpos : 0 < scaled k := by
    rw [scaled_eq]
    exact Nat.mul_pos (units_zero ▸ units_strictMono hk) unitRatio_pos
  have hnext : scaled (k + 1) ≤ 2 * scaled k := by
    rw [scaled_eq, scaled_eq, ← Nat.mul_assoc]
    exact Nat.mul_le_mul_right _ hunits
  unfold Interval.contains Interval.ofRank at h
  split at h <;> simp only [decide_eq_true_eq] at h <;> omega

/-- The search begins above the number. -/
theorem lt_ten_pow_start (n : Nat) : n < 10 ^ (n.log2 / 3 + 1) :=
  calc n < 2 ^ (n.log2 + 1) := Nat.lt_log2_self
    _ ≤ 2 ^ (3 * (n.log2 / 3 + 1)) := Nat.pow_le_pow_right (by omega) (by omega)
    _ = 8 ^ (n.log2 / 3 + 1) := Nat.pow_mul 2 3 _
    _ ≤ 10 ^ (n.log2 / 3 + 1) := Nat.pow_le_pow_left (by omega) _

/-- The shortest decimal is found on a grid, and no coarser grid has a
multiple in the interval. -/
theorem exists_shortest {k : Nat} (hk : 0 < k) :
    ∃ c m : Nat, shortest k = ⟨c, (m : Int) - 1074⟩ ∧
      (Interval.ofRank k).multiple? (10 ^ m) = some c ∧
      ∀ m' n, m < m' → (Interval.ofRank k).contains (n * 10 ^ m') = false := by
  have hvalue := contains_value hk
  obtain ⟨c, m, hd, hc, hcoarser⟩ :=
    Interval.exists_coarsest hvalue ((Interval.ofRank k).value.log2 / 3 + 1)
  refine ⟨c, m, hd, hc, fun m' n hm => ?_⟩
  rw [Bool.eq_false_iff]
  intro hn
  by_cases hstart : m' ≤ (Interval.ofRank k).value.log2 / 3 + 1
  · obtain ⟨c', hc', -⟩ := Interval.exists_multiple? hvalue (Nat.pow_pos (by omega)) hn
    rw [hcoarser m' hm hstart] at hc'
    cases hc'
  · -- Not even ten times the grid that the search began with.
    obtain ⟨hpos, hle⟩ := bounds_of_contains hk hn
    have hbegin := lt_ten_pow_start (scaled k)
    have hpow : 10 ^ ((scaled k).log2 / 3 + 1) * 10 ≤ 10 ^ m' := by
      rw [← Nat.pow_succ]
      exact Nat.pow_le_pow_right (by omega) (Nat.not_le.mp hstart)
    have hmul : 10 ^ m' ≤ n * 10 ^ m' := Nat.le_mul_of_pos_left _ (Nat.pos_of_mul_pos_right hpos)
    omega

/-- No decimal on a coarser grid rounds to the number. -/
theorem not_isNearest_of_exponent_lt {k : Nat} (hk : 0 < k) {a : Nat} {e : Int}
    (he : (shortest k).exponent < e) : ¬ IsNearest (a * 10 ^ e * (unitsPerOne : Nat)) k := by
  obtain ⟨c, m, hd, -, hcoarser⟩ := exists_shortest hk
  rw [hd] at he
  dsimp only at he
  obtain ⟨m', rfl⟩ : ∃ m' : Nat, e = m' - 1074 := ⟨(e + 1074).toNat, by omega⟩
  have hvalue := value_mul_unitsPerOne a m'
  rw [value] at hvalue
  rw [hvalue, ← contains_iff hk, hcoarser m' a (by omega)]
  exact Bool.false_ne_true

theorem le_exponent_of_isNearest {k : Nat} (hk : 0 < k) {a : Nat} {e : Int}
    (h : IsNearest (a * 10 ^ e * (unitsPerOne : Nat)) k) : e ≤ (shortest k).exponent :=
  not_lt.mp fun hlt => not_isNearest_of_exponent_lt hk hlt h

/-- The distance of a number to a decimal, in units of 10⁻¹⁰⁷⁴. -/
theorem abs_toRat_sub (k : Fin infinityRank) (c m : Nat) :
    |toRat (finite .plus k) - c * 10 ^ ((m : Int) - 1074)| =
      (((scaled k : Int) - (c * 10 ^ m : Nat)).natAbs : ℚ) / unitRatio / (unitsPerOne : Nat) := by
  have hR : (0 : ℚ) < unitRatio := Nat.cast_pos.mpr unitRatio_pos
  have hvalue := value_mul_unitsPerOne c m
  rw [value] at hvalue
  have hunits : (units k : ℚ) = scaled k / unitRatio := by
    rw [scaled_eq, Nat.cast_mul, mul_div_cancel_right₀ _ hR.ne']
  rw [abs_sub_comm, abs_sub_toRat_plus, hvalue, hunits, ← sub_div, abs_div, abs_of_pos hR,
    abs_sub_comm, Nat.cast_natAbs]
  push_cast
  rfl

/-- No decimal on the grid of the shortest one is closer. -/
theorem abs_sub_shortest_le {k : Fin infinityRank} (hk : 0 < k.val) {a : Nat}
    (h : IsNearest (a * 10 ^ (shortest k).exponent * (unitsPerOne : Nat)) k) :
    |toRat (finite .plus k) - (shortest k).value| ≤
      |toRat (finite .plus k) - a * 10 ^ (shortest k).exponent| := by
  obtain ⟨c, m, hd, hc, -⟩ := exists_shortest hk
  have hvalue := value_mul_unitsPerOne a m
  rw [value] at hvalue
  rw [hd, hvalue, ← contains_iff hk] at h
  obtain ⟨c', hc', hle⟩ :=
    Interval.exists_multiple? (contains_value hk) (Nat.pow_pos (by omega)) h
  rw [hc] at hc'
  obtain rfl := Option.some.inj hc'
  rw [hd, value, abs_toRat_sub, abs_toRat_sub]
  have hle' : (((scaled k : Int) - (c * 10 ^ m : Nat)).natAbs : ℚ) ≤
      ((scaled k : Int) - (a * 10 ^ m : Nat)).natAbs := Nat.cast_le.mpr hle
  exact div_le_div_of_nonneg_right (div_le_div_of_nonneg_right hle' (Nat.cast_nonneg _))
    (Nat.cast_nonneg _)

/-! ## 4. Powers of ten -/

theorem ten_pow_units_bounds :
    (2 : ℚ) < 10 ^ (-323 : Int) * (unitsPerOne : Nat) ∧
      (10 : ℚ) ^ (-323 : Int) * (unitsPerOne : Nat) < 21 / 10 := by
  have hpow : (0 : ℚ) < 10 ^ (323 : Int) := zpow_pos (by norm_num) _
  have hten := ten_zpow_natCast 323
  rw [Nat.cast_ofNat] at hten
  have hlow : 2 * 10 ^ 323 < unitsPerOne := by decide +kernel
  have hhigh : unitsPerOne * 10 < 21 * 10 ^ 323 := by decide +kernel
  rw [zpow_neg, inv_mul_eq_div, lt_div_iff₀ hpow, div_lt_div_iff₀ hpow (by norm_num), hten]
  exact ⟨by exact_mod_cast hlow, by exact_mod_cast hhigh⟩

/-- Between one unit and ten there is a single power of ten. -/
theorem eq_of_ten_pow_units {e : Int} (hlow : 1 < (10 : ℚ) ^ e * (unitsPerOne : Nat))
    (hhigh : (10 : ℚ) ^ e * (unitsPerOne : Nat) < 10) : e = -323 := by
  obtain ⟨hlow', hhigh'⟩ := ten_pow_units_bounds
  have hmono : ∀ {i j : Int}, i ≤ j →
      (10 : ℚ) ^ i * (unitsPerOne : Nat) ≤ 10 ^ j * (unitsPerOne : Nat) :=
    fun hij => mul_le_mul_of_nonneg_right (zpow_le_zpow_right₀ (by norm_num) hij)
      cast_unitsPerOne_pos.le
  have hten : ∀ i : Int,
      (10 : ℚ) ^ (i + 1) * (unitsPerOne : Nat) = 10 * (10 ^ i * (unitsPerOne : Nat)) := by
    intro i
    rw [zpow_add_one₀ (by norm_num)]
    ring
  rcases lt_trichotomy e (-323) with hlt | heq | hgt
  · have hle := hmono (show e + 1 ≤ -323 by omega)
    rw [hten] at hle
    linarith
  · exact heq
  · have hle := hmono (show -323 + 1 ≤ e by omega)
    rw [hten] at hle
    linarith

/-- If two values round to a number and one is at most nine tenths of the
other, the number has at most nine units. -/
theorem le_nine_of_isNearest {k : Nat} (hk : 0 < k) {x y : ℚ} (hx : IsNearest x k)
    (hy : IsNearest y k) (hxy : 10 * x ≤ 9 * y) : k ≤ 9 ∧ units k = k := by
  obtain ⟨j, rfl⟩ : ∃ j, k = j + 1 := ⟨k - 1, by omega⟩
  have hlow := hx.halfway_le
  have hhigh := hy.le_halfway
  have hexponent : Binary64.exponent j ≤ Binary64.exponent (j + 1) := by
    unfold Binary64.exponent
    omega
  have hstep : (2 : ℚ) ^ Binary64.exponent j ≤ 2 ^ Binary64.exponent (j + 1) :=
    pow_le_pow_right₀ one_le_two hexponent
  have hunits := cast_units_succ j
  rw [halfway_eq] at hlow hhigh
  have hle : 2 * (units (j + 1) : ℚ) ≤ 19 * 2 ^ Binary64.exponent (j + 1) := by linarith
  have hle' : 2 * units (j + 1) ≤ 19 * 2 ^ Binary64.exponent (j + 1) := by exact_mod_cast hle
  rw [units, ← Nat.mul_assoc] at hle'
  have hsignificand := Nat.le_of_mul_le_mul_right hle' (Nat.two_pow_pos _)
  have hrun := (isSignificand_significand (j + 1)).2
  have hrank := rank_eq (j + 1)
  have hzero : Binary64.exponent (j + 1) = 0 := by omega
  refine ⟨by omega, ?_⟩
  rw [units, hzero, Nat.pow_zero, Nat.mul_one]
  omega

/-- A power of ten is closer to a number than what is at most nine tenths of
it, if both round to the number. -/
theorem abs_sub_ten_pow_le {k : Fin infinityRank} (hk : 0 < k.val) {v : ℚ} {e : Int}
    (hv : IsNearest (v * (unitsPerOne : Nat)) k)
    (hten : IsNearest (10 ^ e * (unitsPerOne : Nat)) k) (hle : 10 * v ≤ 9 * 10 ^ e) :
    |toRat (finite .plus k) - 10 ^ e| ≤ |toRat (finite .plus k) - v| := by
  have hpos := cast_unitsPerOne_pos
  have hle' : 10 * (v * (unitsPerOne : Nat)) ≤ 9 * (10 ^ e * (unitsPerOne : Nat)) := by
    rw [← mul_assoc, ← mul_assoc]
    exact mul_le_mul_of_nonneg_right hle hpos.le
  obtain ⟨hnine, hunits⟩ := le_nine_of_isNearest hk hv hten hle'
  have hpow : 0 < (10 : ℚ) ^ e * (unitsPerOne : Nat) := mul_pos (zpow_pos (by norm_num) e) hpos
  have hhalf := hten.le_halfway
  have hexponent : Binary64.exponent k = 0 := by
    unfold Binary64.exponent
    omega
  rw [halfway_eq, hexponent, pow_zero, hunits] at hhalf
  rw [abs_sub_comm, abs_sub_comm _ v, abs_sub_toRat_plus, abs_sub_toRat_plus, hunits]
  refine div_le_div_of_nonneg_right ?_ hpos.le
  have hk' : (1 : ℚ) ≤ k.val := Nat.one_le_cast.mpr hk
  have hnine' : (k.val : ℚ) ≤ 9 := by exact_mod_cast hnine
  rcases le_or_gt ((10 : ℚ) ^ e * (unitsPerOne : Nat)) k.val with hge | hlt
  · rw [abs_of_nonpos (by linarith), abs_of_nonpos (by linarith)]
    linarith
  · -- The power of ten is 2.02 units, and the number has two.
    obtain rfl := eq_of_ten_pow_units (by linarith) (by linarith)
    obtain ⟨hlow, hhigh⟩ := ten_pow_units_bounds
    have htwo : (k.val : ℚ) = 2 := by
      have hlt' : k.val < 3 := by
        have h : (k.val : ℚ) < 3 := by linarith
        exact_mod_cast h
      have hgt : 1 < k.val := by
        have h : (1 : ℚ) < k.val := by linarith
        exact_mod_cast h
      exact_mod_cast (show k.val = 2 by omega)
    rw [abs_of_nonneg (by linarith), abs_of_nonpos (by linarith)]
    linarith

/-! ## 5. Digits -/

/-- The value of `0.DIGITS · 10 ^ point`. -/
def pointed (ds : List Char) (p : Int) : ℚ := Nat.ofDigitChars 10 ds 0 / 10 ^ ds.length * 10 ^ p

/-- Digits without a zero at either end. -/
structure IsTrimmed (ds : List Char) : Prop where
  ne_nil : ds ≠ []
  allDigits : AllDigits ds
  head : ds.head? ≠ some '0'
  last : ds.getLast? ≠ some '0'

/-- A decimal of at most `n` significant digits. -/
def IsDecimal (n : Nat) (v : ℚ) : Prop := ∃ a e : Int, |a| < 10 ^ n ∧ v = a * 10 ^ e

theorem pointed_eq (ds : List Char) (p : Int) :
    pointed ds p = Nat.ofDigitChars 10 ds 0 * 10 ^ (p - ds.length) := by
  rw [pointed, zpow_sub₀ (by norm_num), zpow_natCast]
  ring

theorem value_nonneg (d : Decimal) : 0 ≤ d.value := by
  rw [value]
  exact mul_nonneg (Nat.cast_nonneg _) (zpow_nonneg (by norm_num) _)

theorem pointed_digits (d : Decimal) : pointed d.digits d.point = d.value := by
  rw [pointed_eq, value_digits]

theorem getLast?_toDigits (n : Nat) :
    (Nat.toDigits 10 n).getLast? = some (Nat.digitChar (n % 10)) := by
  rw [Nat.toDigits_eq_if (by omega)]
  split
  · rename_i h
    rw [Nat.mod_eq_of_lt h, List.getLast?_singleton]
  · rw [List.getLast?_concat]

section

variable {k : Nat} (hk : 0 < k)

include hk

/-- A zero at the end would mean a coarser grid. -/
theorem coefficient_shortest_mod_ten : (shortest k).coefficient % 10 ≠ 0 := by
  intro hzero
  have hvalue : ((shortest k).coefficient / 10 : Nat) * 10 ^ ((shortest k).exponent + 1) =
      (shortest k).value := by
    have hten : ((shortest k).coefficient : ℚ) = ((shortest k).coefficient / 10 : Nat) * 10 := by
      exact_mod_cast (Nat.div_mul_cancel (Nat.dvd_of_mod_eq_zero hzero)).symm
    rw [value, hten, zpow_add_one₀ (by norm_num)]
    ring
  refine not_isNearest_of_exponent_lt hk (a := (shortest k).coefficient / 10) (Int.lt_succ _) ?_
  rw [hvalue]
  exact shortest_isNearest hk

theorem isTrimmed_digits : IsTrimmed (shortest k).digits where
  ne_nil := digits_ne_nil _
  allDigits := allDigits_digits _
  head := head?_toDigits (coefficient_shortest_ne_zero hk)
  last := by
    rw [digits, getLast?_toDigits, Ne, Option.some.injEq]
    exact digitChar_ne_zero (Nat.mod_lt _ (by omega)) (coefficient_shortest_mod_ten hk)

/-- The point says between which powers of ten the shortest decimal is. -/
theorem point_bounds : (10 : ℚ) ^ ((shortest k).point - 1) ≤ (shortest k).value ∧
    (shortest k).value < 10 ^ (shortest k).point := by
  have hpos : (0 : ℚ) < 10 ^ (shortest k).exponent := zpow_pos (by norm_num) _
  have hlength : 0 < (shortest k).digits.length := List.length_pos_iff.mpr (digits_ne_nil _)
  have hlt : (shortest k).coefficient < 10 ^ (shortest k).digits.length :=
    (Nat.length_toDigits_le_iff (by omega) hlength).mp le_rfl
  have hge : 10 ^ ((shortest k).digits.length - 1) ≤ (shortest k).coefficient := by
    by_contra hlt'
    rcases Nat.eq_zero_or_pos ((shortest k).digits.length - 1) with hone | hmore
    · rw [hone, Nat.pow_zero] at hlt'
      exact coefficient_shortest_ne_zero hk (by omega)
    · have hle := (Nat.length_toDigits_le_iff (by omega) hmore).mpr (Nat.not_le.mp hlt')
      rw [← digits] at hle
      omega
  have hpoint : (shortest k).point - 1 =
      ((shortest k).digits.length - 1 : Nat) + (shortest k).exponent := by
    rw [point]
    omega
  rw [hpoint, value, point, zpow_add₀ (by norm_num), zpow_add₀ (by norm_num), ten_zpow_natCast,
    ten_zpow_natCast]
  exact ⟨mul_le_mul_of_nonneg_right (Nat.cast_le.mpr hge) hpos.le,
    mul_lt_mul_of_pos_right (Nat.cast_lt.mpr hlt) hpos⟩

/-- Of two digits or more none are given away: what rounds to the number is
above the power of ten that has the same point. -/
theorem ten_pow_lt_of_isNearest (hlength : 1 < (shortest k).digits.length) {v : ℚ}
    (hv : IsNearest (v * (unitsPerOne : Nat)) k) : (10 : ℚ) ^ ((shortest k).point - 1) < v := by
  by_contra hle
  have hpos := cast_unitsPerOne_pos.le
  have hten : IsNearest (10 ^ ((shortest k).point - 1) * (unitsPerOne : Nat)) k :=
    hv.convex (shortest_isNearest hk) (mul_le_mul_of_nonneg_right (not_lt.mp hle) hpos)
      (mul_le_mul_of_nonneg_right (point_bounds hk).1 hpos)
  refine not_isNearest_of_exponent_lt hk (a := 1) (e := (shortest k).point - 1) ?_ ?_
  · rw [point]
    omega
  · rwa [Nat.cast_one, one_mul]

end

/-! ## 6. What the shortest decimal is -/

/-- A decimal that rounds to a positive number, without its sign. -/
theorem exists_of_roundsTo {k : Fin infinityRank} {n : Nat} {v : ℚ} (hv : IsDecimal n v)
    (h : RoundsTo v (finite .plus k)) :
    ∃ (a : Nat) (e : Int), a < 10 ^ n ∧ v = a * 10 ^ e ∧ IsNearest (v * (unitsPerOne : Nat)) k := by
  obtain ⟨a, e, ha, rfl⟩ := hv
  obtain ⟨hnonneg, hnear⟩ := roundsTo_finite_iff.mp h
  have hpos : (0 : ℚ) < 10 ^ e := zpow_pos (by norm_num) e
  have hcast : ((a.natAbs : Nat) : ℚ) = a := by
    have ha' : (0 : ℚ) ≤ a := nonneg_of_mul_nonneg_left hnonneg hpos
    rw [Nat.cast_natAbs, abs_of_nonneg (Int.cast_nonneg_iff.mp ha')]
  refine ⟨a.natAbs, e, ?_, by rw [hcast], ?_⟩
  · rw [Int.abs_eq_natAbs] at ha
    exact_mod_cast ha
  · rwa [abs_of_nonneg hnonneg] at hnear

theorem mul_zpow_lt {a n : Nat} {e f : Int} (ha : a < 10 ^ n) (hef : e ≤ f) :
    (a : ℚ) * 10 ^ e < 10 ^ (n + f) := by
  have hpos : (0 : ℚ) < 10 ^ f := zpow_pos (by norm_num) f
  rw [zpow_add₀ (by norm_num), ten_zpow_natCast]
  calc (a : ℚ) * 10 ^ e
      ≤ a * 10 ^ f :=
        mul_le_mul_of_nonneg_left (zpow_le_zpow_right₀ (by norm_num) hef) (Nat.cast_nonneg a)
    _ < (10 ^ n : Nat) * 10 ^ f := mul_lt_mul_of_pos_right (Nat.cast_lt.mpr ha) hpos

section

variable {k : Fin infinityRank} (hk : 0 < k.val)

include hk

theorem roundsTo_shortest : RoundsTo (shortest k).value (finite .plus k) := by
  refine roundsTo_finite_iff.mpr ⟨value_nonneg _, ?_⟩
  rw [abs_of_nonneg (value_nonneg _)]
  exact shortest_isNearest hk

/-- No decimal with fewer digits rounds to the number. -/
theorem not_roundsTo_of_fewer {n : Nat} {v : ℚ} (hn : n < (shortest k).digits.length)
    (hv : IsDecimal n v) : ¬ RoundsTo v (finite .plus k) := by
  intro h
  obtain ⟨a, e, ha, rfl, hnear⟩ := exists_of_roundsTo hv h
  have hlt := mul_zpow_lt ha (le_exponent_of_isNearest hk hnear)
  rcases Nat.eq_zero_or_pos n with rfl | hpos
  · obtain rfl : a = 0 := by omega
    rw [Nat.cast_zero, zero_mul, zero_mul] at hnear
    exact hk.ne' (hnear.unique isNearest_zero)
  · have hgt := ten_pow_lt_of_isNearest hk (by omega) hnear
    have hle : (10 : ℚ) ^ (n + (shortest k).exponent) ≤ 10 ^ ((shortest k).point - 1) := by
      refine zpow_le_zpow_right₀ (by norm_num) ?_
      rw [point]
      omega
    exact lt_asymm hgt (hlt.trans_le hle)

/-- On a finer grid, a decimal with as many digits is below the power of ten
that has the same point. That leaves one digit only. -/
theorem length_eq_one_of_finer {a : Nat} {e : Int} (ha : a < 10 ^ (shortest k).digits.length)
    (he : e < (shortest k).exponent) (h : IsNearest (a * 10 ^ e * (unitsPerOne : Nat)) k) :
    (shortest k).digits.length = 1 := by
  have hpos : 0 < (shortest k).digits.length := List.length_pos_iff.mpr (digits_ne_nil _)
  have hlt := mul_zpow_lt ha (Int.le_sub_one_of_lt he)
  rw [← add_sub_assoc, ← point] at hlt
  by_contra hmore
  exact lt_asymm hlt (ten_pow_lt_of_isNearest hk (by omega) h)

/-- A decimal of one digit on a finer grid is not closer. -/
theorem abs_sub_le_of_finer {a : Nat} {e : Int} (ha : a < 10)
    (he : e < (shortest k).exponent) (hone : (shortest k).digits.length = 1)
    (h : IsNearest (a * 10 ^ e * (unitsPerOne : Nat)) k) :
    |toRat (finite .plus k) - (shortest k).value| ≤ |toRat (finite .plus k) - a * 10 ^ e| := by
  have hnine : (a : ℚ) ≤ 9 := by exact_mod_cast Nat.le_of_lt_succ ha
  have hpow : (0 : ℚ) ≤ 10 ^ (shortest k).exponent := zpow_nonneg (by norm_num) _
  have hle : 10 * ((a : ℚ) * 10 ^ e) ≤ 9 * 10 ^ (shortest k).exponent :=
    calc 10 * ((a : ℚ) * 10 ^ e)
        = a * 10 ^ (e + 1) := by rw [zpow_add_one₀ (by norm_num)]; ring
      _ ≤ 9 * 10 ^ (shortest k).exponent :=
        mul_le_mul hnine (zpow_le_zpow_right₀ (by norm_num) he) (zpow_nonneg (by norm_num) _)
          (by norm_num)
  -- The power of ten in between rounds to the number and is on the grid.
  have hbelow := (point_bounds hk).1
  rw [point, hone, Nat.cast_one, add_sub_cancel_left] at hbelow
  have hten : IsNearest (10 ^ (shortest k).exponent * (unitsPerOne : Nat)) k :=
    h.convex (shortest_isNearest hk)
      (mul_le_mul_of_nonneg_right (by linarith) cast_unitsPerOne_pos.le)
      (mul_le_mul_of_nonneg_right hbelow cast_unitsPerOne_pos.le)
  have hgrid := abs_sub_shortest_le hk (a := 1) (by rwa [Nat.cast_one, one_mul])
  rw [Nat.cast_one, one_mul] at hgrid
  exact hgrid.trans (abs_sub_ten_pow_le hk h hten hle)

/-- Of the decimals with as many digits that round to the number, none is
closer. -/
theorem abs_sub_le_of_same_length {v : ℚ} (hv : IsDecimal (shortest k).digits.length v)
    (h : RoundsTo v (finite .plus k)) :
    |toRat (finite .plus k) - (shortest k).value| ≤ |toRat (finite .plus k) - v| := by
  obtain ⟨a, e, ha, rfl, hnear⟩ := exists_of_roundsTo hv h
  rcases (le_exponent_of_isNearest hk hnear).lt_or_eq with hfiner | rfl
  · have hone := length_eq_one_of_finer hk ha hfiner hnear
    rw [hone, pow_one] at ha
    exact abs_sub_le_of_finer hk ha hfiner hone hnear
  · exact abs_sub_shortest_le hk hnear

end

/-- The shortest decimal of a positive number. Its digits have no zero at
either end; with the point in its place they round to the number; no
decimal with fewer digits does, whatever its sign and its exponent; and of
those with as many digits that do, none is closer. -/
theorem shortest_fewest_closest {k : Fin infinityRank} (hk : 0 < k.val) :
    let d := shortest k
    let x := finite .plus k
    IsTrimmed d.digits ∧
    RoundsTo (pointed d.digits d.point) x ∧
    (∀ n v, n < d.digits.length → IsDecimal n v → ¬ RoundsTo v x) ∧
    (∀ v, IsDecimal d.digits.length v → RoundsTo v x →
      |x.toRat - pointed d.digits d.point| ≤ |x.toRat - v|) := by
  intro d x
  rw [pointed_digits]
  exact ⟨isTrimmed_digits hk, roundsTo_shortest hk, fun n v => not_roundsTo_of_fewer hk,
    fun v => abs_sub_le_of_same_length hk⟩

theorem roundsTo_nine_of_two_units :
    RoundsTo (9 * 10 ^ (-324 : Int)) (finite .plus ⟨2, by decide⟩) := by
  have hnonneg : (0 : ℚ) ≤ 9 * 10 ^ (-324 : Int) :=
    mul_nonneg (by norm_num) (zpow_nonneg (by norm_num) _)
  have hvalue := value_mul_unitsPerOne 9 750
  rw [value, Nat.cast_ofNat, show ((750 : Nat) : Int) - 1074 = -324 from rfl] at hvalue
  refine roundsTo_finite_iff.mpr ⟨hnonneg, ?_⟩
  rw [abs_of_nonneg hnonneg, hvalue]
  exact (contains_iff (by decide) _).mp (by decide +kernel)

/-- Two units are 9.88 · 10⁻³²⁴. There are two digits to choose from, and
10⁻³²³ is the closer one. -/
theorem shortest_of_two_units :
    0 < 2 ∧ (shortest 2).digits = ['1'] ∧ (shortest 2).point = -322 ∧
      RoundsTo (pointed ['1'] (-322)) (finite .plus ⟨2, by decide⟩) ∧
      (∀ v, IsDecimal 0 v → ¬ RoundsTo v (finite .plus ⟨2, by decide⟩)) ∧
      |toRat (finite .plus ⟨2, by decide⟩) - pointed ['1'] (-322)| ≤
        |toRat (finite .plus ⟨2, by decide⟩) - 9 * 10 ^ (-324 : Int)| := by
  have hshortest : shortest 2 = ⟨1, -323⟩ := by decide +kernel
  have hdigits : (shortest 2).digits = ['1'] := by
    rw [hshortest]
    rfl
  have hpoint : (shortest 2).point = -322 := by
    rw [hshortest]
    rfl
  obtain ⟨-, hround, hfewer, hclosest⟩ := shortest_fewest_closest (k := ⟨2, by decide⟩) (by decide)
  rw [hdigits, hpoint] at hround hclosest
  refine ⟨by decide, hdigits, hpoint, hround, fun v => hfewer 0 v ?_, hclosest _ ?_ ?_⟩
  · rw [hdigits]
    decide
  · exact ⟨9, -324, by decide, by norm_num⟩
  · exact roundsTo_nine_of_two_units

end Decimal

end Quadratic
