/-
Quadratic.Proofs.Nearest — rounding gives the nearest number, and of two
nearest ones the one of even rank.

Exact values are rational numbers, counted in units of 2⁻¹⁰⁷⁴ like the
ranks. `IsNearest x k` says what rounding has to do without a word about
how it is done: no other magnitude is nearer to `x`, and one that is as
near is tolerated only if `k` is even.

* `isNearest_iff` — the same, by comparison with the two points halfway
  to the neighbours. All proofs go through it.
* `IsNearest.mono`, `IsNearest.unique` — rounding keeps the order, and
  its result is determined. Two nearest ranks of one value would be
  neighbours that are both even.
* `nearestRank_isNearest` — the algorithm meets the specification, so
  every value has a nearest rank (`exists_isNearest`).
* `ofDecimal_of_isNearest` — so does the reading of decimals, whose
  shortcuts for very large and very small exponents agree with it.
-/
import Mathlib.Algebra.Order.Field.Rat
import Mathlib.Tactic.FieldSimp
import Mathlib.Tactic.Linarith
import Mathlib.Tactic.Positivity
import Quadratic.Proofs.Ranks

namespace Quadratic.Binary64

/-! ## 1. Nearest ranks -/

/-- The magnitude of rank `k` is nearest to `x` units; of two nearest
ones `k` is the even one. -/
def IsNearest (x : ℚ) (k : Nat) : Prop :=
  ∀ j, j ≠ k →
    |x - units k| < |x - units j| ∨ (|x - units k| = |x - units j| ∧ k % 2 = 0)

/-- The point halfway between the magnitudes of rank `k` and `k + 1`. -/
def halfway (k : Nat) : ℚ := ((units k : ℚ) + units (k + 1)) / 2

theorem abs_sub_lt_abs_sub_iff {u v x : ℚ} (h : u < v) :
    |x - u| < |x - v| ↔ x < (u + v) / 2 := by
  rw [← sq_lt_sq]
  have hsq : (x - v) ^ 2 - (x - u) ^ 2 = (v - u) * (u + v - 2 * x) := by ring
  have hpos : 0 < (v - u) * (u + v - 2 * x) ↔ 0 < u + v - 2 * x :=
    mul_pos_iff_of_pos_left (sub_pos.mpr h)
  rw [← sub_pos, hsq, hpos]
  constructor <;> intro hx <;> linarith

theorem abs_sub_eq_abs_sub_iff {u v x : ℚ} (h : u < v) :
    |x - u| = |x - v| ↔ x = (u + v) / 2 := by
  rw [← sq_eq_sq_iff_abs_eq_abs]
  have hsq : (x - v) ^ 2 - (x - u) ^ 2 = (v - u) * (u + v - 2 * x) := by ring
  have hzero : (v - u) * (u + v - 2 * x) = 0 ↔ u + v - 2 * x = 0 :=
    mul_eq_zero_iff_left (sub_pos.mpr h).ne'
  rw [eq_comm, ← sub_eq_zero, hsq, hzero]
  constructor <;> intro hx <;> linarith

theorem abs_sub_lt_abs_sub_iff' {u v x : ℚ} (h : u < v) :
    |x - v| < |x - u| ↔ (u + v) / 2 < x := by
  have hlt := abs_sub_lt_abs_sub_iff (x := x) h
  have heq := abs_sub_eq_abs_sub_iff (x := x) h
  rw [← not_le, ← not_le, le_iff_lt_or_eq, le_iff_lt_or_eq, hlt, heq]

theorem cast_units_lt {j k : Nat} (h : j < k) : (units j : ℚ) < units k := by
  exact_mod_cast units_strictMono h

theorem cast_units_le {j k : Nat} (h : j ≤ k) : (units j : ℚ) ≤ units k := by
  exact_mod_cast units_strictMono.monotone h

theorem halfway_strictMono : StrictMono halfway := by
  apply strictMono_nat_of_lt_succ
  intro k
  have h₁ := cast_units_lt (Nat.lt_succ_self k)
  have h₂ := cast_units_lt (Nat.lt_succ_self (k + 1))
  unfold halfway
  linarith

theorem units_lt_halfway (k : Nat) : (units k : ℚ) < halfway k := by
  have := cast_units_lt (Nat.lt_succ_self k)
  unfold halfway
  linarith

theorem halfway_lt_units (k : Nat) : halfway k < units (k + 1) := by
  have := cast_units_lt (Nat.lt_succ_self k)
  unfold halfway
  linarith

theorem cast_units_succ (k : Nat) : (units (k + 1) : ℚ) = units k + 2 ^ exponent k := by
  rw [units_succ, Nat.cast_add, Nat.cast_pow, Nat.cast_ofNat]

/-- The first half of a step, from the lower end. -/
theorem halfway_eq (k : Nat) : halfway k = units k + 2 ^ exponent k / 2 := by
  unfold halfway
  rw [cast_units_succ]
  ring

/-- Being nearest is being between the two points halfway to the
neighbours, where a point itself belongs to its even side. -/
theorem isNearest_iff {x : ℚ} {k : Nat} :
    IsNearest x k ↔
      (∀ j, j + 1 = k → halfway j < x ∨ (halfway j = x ∧ k % 2 = 0)) ∧
        (x < halfway k ∨ (x = halfway k ∧ k % 2 = 0)) := by
  constructor
  · intro h
    constructor
    · rintro j rfl
      have hlt := cast_units_lt (Nat.lt_succ_self j)
      rcases h j (by omega) with h | ⟨h, heven⟩
      · exact .inl ((abs_sub_lt_abs_sub_iff' hlt).mp h)
      · exact .inr ⟨((abs_sub_eq_abs_sub_iff hlt).mp h.symm).symm, heven⟩
    · have hlt := cast_units_lt (Nat.lt_succ_self k)
      rcases h (k + 1) (by omega) with h | ⟨h, heven⟩
      · exact .inl ((abs_sub_lt_abs_sub_iff hlt).mp h)
      · exact .inr ⟨(abs_sub_eq_abs_sub_iff hlt).mp h, heven⟩
  · rintro ⟨hlow, hhigh⟩ j hj
    rcases Nat.lt_or_gt_of_ne hj with hjk | hkj
    · -- A smaller rank is no nearer than the one right below `k`.
      obtain ⟨i, rfl⟩ : ∃ i, k = i + 1 := ⟨k - 1, by omega⟩
      have hlt := cast_units_lt hjk
      have hle := cast_units_le (show j ≤ i by omega)
      rw [abs_sub_lt_abs_sub_iff' hlt, eq_comm, abs_sub_eq_abs_sub_iff hlt]
      have hmid : ((units j : ℚ) + units (i + 1)) / 2 ≤ halfway i := by
        unfold halfway
        linarith
      rcases hlow i rfl with hx | ⟨hx, heven⟩
      · exact .inl (lt_of_le_of_lt hmid hx)
      · rcases hmid.lt_or_eq with hmid | hmid
        · exact .inl (hx ▸ hmid)
        · exact .inr ⟨(hmid.trans hx).symm, heven⟩
    · have hlt := cast_units_lt hkj
      have hle := cast_units_le (show k + 1 ≤ j from hkj)
      rw [abs_sub_lt_abs_sub_iff hlt, abs_sub_eq_abs_sub_iff hlt]
      have hmid : halfway k ≤ ((units k : ℚ) + units j) / 2 := by
        unfold halfway
        linarith
      rcases hhigh with hx | ⟨hx, heven⟩
      · exact .inl (lt_of_lt_of_le hx hmid)
      · rcases hmid.lt_or_eq with hmid | hmid
        · exact .inl (hx ▸ hmid)
        · exact .inr ⟨hx.trans hmid, heven⟩

theorem IsNearest.halfway_le {x : ℚ} {k : Nat} (h : IsNearest x (k + 1)) : halfway k ≤ x :=
  ((isNearest_iff.mp h).1 k rfl).elim le_of_lt fun heq => heq.1.le

theorem IsNearest.le_halfway {x : ℚ} {k : Nat} (h : IsNearest x k) : x ≤ halfway k :=
  (isNearest_iff.mp h).2.elim le_of_lt fun heq => heq.1.le

/-- A number in the first half of a step is nearest to the lower end. -/
theorem isNearest_add_of_low {k : Nat} {x : ℚ} (hx : 0 ≤ x)
    (hlow : x < 2 ^ exponent k / 2 ∨ (x = 2 ^ exponent k / 2 ∧ k % 2 = 0)) :
    IsNearest (units k + x) k := by
  rw [isNearest_iff]
  constructor
  · rintro j rfl
    have hj := halfway_lt_units j
    exact .inl (by linarith)
  · rw [halfway_eq, add_lt_add_iff_left, add_right_inj]
    exact hlow

/-- A number in the second half is nearest to the upper end. -/
theorem isNearest_add_of_high {k : Nat} {x : ℚ} (hx : x < 2 ^ exponent k)
    (hhigh : ¬ (x < 2 ^ exponent k / 2 ∨ (x = 2 ^ exponent k / 2 ∧ k % 2 = 0))) :
    IsNearest (units k + x) (k + 1) := by
  rw [not_or, not_lt] at hhigh
  rw [isNearest_iff]
  constructor
  · intro j hj
    obtain rfl : j = k := by omega
    rw [halfway_eq, add_lt_add_iff_left, add_right_inj]
    rcases hhigh.1.lt_or_eq with hlt | heq
    · exact .inl hlt
    · have hodd : ¬ j % 2 = 0 := fun heven => hhigh.2 ⟨heq.symm, heven⟩
      exact .inr ⟨heq, by omega⟩
  · have hupper := units_lt_halfway (k + 1)
    rw [cast_units_succ] at hupper
    exact .inl (by linarith)

/-- Rounding keeps the order. -/
theorem IsNearest.mono {x y : ℚ} {j k : Nat} (hx : IsNearest x j) (hy : IsNearest y k)
    (hxy : x ≤ y) : j ≤ k := by
  by_contra hkj
  obtain ⟨i, rfl⟩ : ∃ i, j = i + 1 := ⟨j - 1, by omega⟩
  have hki : k ≤ i := by omega
  have hmid := halfway_strictMono.monotone hki
  have hlow := (isNearest_iff.mp hx).1 i rfl
  have hhigh := (isNearest_iff.mp hy).2
  -- All of the comparisons are equalities, so `k` and `k + 1` are even.
  have hle := hx.halfway_le
  have hge := hy.le_halfway
  have heq : halfway i = halfway k := le_antisymm (by linarith) hmid
  have hik := halfway_strictMono.injective heq
  rcases hlow with hlow | ⟨_, hi⟩
  · linarith
  · rcases hhigh with hhigh | ⟨_, hk⟩
    · linarith
    · omega

/-- A value has only one nearest rank. -/
theorem IsNearest.unique {x : ℚ} {j k : Nat} (hj : IsNearest x j) (hk : IsNearest x k) : j = k :=
  Nat.le_antisymm (hj.mono hk le_rfl) (hk.mono hj le_rfl)

/-- A magnitude of the format is nearest to itself. -/
theorem isNearest_units (k : Nat) : IsNearest (units k) k := by
  intro j hj
  have hne : (units k : ℚ) - units j ≠ 0 := by
    rw [sub_ne_zero]
    exact_mod_cast units_strictMono.injective.ne hj.symm
  left
  rw [sub_self, abs_zero]
  exact abs_pos.mpr hne

theorem isNearest_zero : IsNearest 0 0 := by
  have h := isNearest_units 0
  rwa [units_zero, Nat.cast_zero] at h

/-! ## 2. The algorithm -/

/-- The quotient at the spacing of its run is a significand of that run. -/
theorem isSignificand_floor (num den : Nat) :
    IsSignificand (scale (num / den)) (num / (den * 2 ^ scale (num / den))) := by
  rw [← Nat.div_div_eq_div_mul]
  generalize num / den = w
  unfold IsSignificand scale
  have hlt := Nat.lt_log2_self (n := w)
  constructor
  · rw [Nat.div_lt_iff_lt_mul (Nat.two_pow_pos _), ← Nat.pow_add]
    exact lt_of_lt_of_le hlt (Nat.pow_le_pow_right (by omega) (by omega))
  · by_cases hsmall : w.log2 ≤ 52
    · exact .inl (by omega)
    · right
      have hw : w ≠ 0 := by
        rintro rfl
        simp at hsmall
      rw [Nat.le_div_iff_mul_le (Nat.two_pow_pos _), ← Nat.pow_add,
        show 52 + (w.log2 - 52) = w.log2 by omega]
      exact Nat.log2_self_le hw

theorem units_floorRank (num den : Nat) :
    units (floorRank num den) =
      num / (den * 2 ^ scale (num / den)) * 2 ^ scale (num / den) := by
  obtain ⟨hq, hs⟩ := isSignificand_floor num den
  exact units_run (Nat.le_of_lt hq) hs

theorem exponent_floorRank (num den : Nat) :
    exponent (floorRank num den) = scale (num / den) :=
  exponent_run (isSignificand_floor num den)

/-- What the quotient has beyond its floor is the remainder. -/
theorem eq_units_floorRank_add (num : Nat) {den : Nat} (hden : 0 < den) :
    (num : ℚ) / den =
      units (floorRank num den) + (num % (den * 2 ^ scale (num / den)) : Nat) / (den : ℚ) := by
  have hden' : (den : ℚ) ≠ 0 := by exact_mod_cast hden.ne'
  have hnat : num = den * units (floorRank num den) + num % (den * 2 ^ scale (num / den)) := by
    have h := Nat.div_add_mod num (den * 2 ^ scale (num / den))
    rw [units_floorRank]
    nth_rewrite 1 [← h]
    ring
  have hcast : (num : ℚ) =
      den * units (floorRank num den) + (num % (den * 2 ^ scale (num / den)) : Nat) := by
    exact_mod_cast hnat
  rw [eq_comm, ← sub_eq_iff_eq_add'.mpr hcast]
  field_simp
  ring

/-- The algorithm finds the nearest rank. -/
theorem nearestRank_isNearest (num : Nat) {den : Nat} (hden : 0 < den) :
    IsNearest ((num : ℚ) / den) (nearestRank num den) := by
  have hstep : 0 < den * 2 ^ scale (num / den) := Nat.mul_pos hden (Nat.two_pow_pos _)
  have hmod := Nat.mod_lt num hstep
  have hden' : (0 : ℚ) < den := by exact_mod_cast hden
  have hexp := exponent_floorRank num den
  rw [eq_units_floorRank_add num hden]
  unfold nearestRank
  dsimp only
  generalize floorRank num den = k at *
  generalize num % (den * 2 ^ scale (num / den)) = r at *
  rw [← hexp] at hmod ⊢
  have hr : (0 : ℚ) ≤ (r : ℚ) / den := by positivity
  have hr' : (r : ℚ) / den < 2 ^ exponent k := by
    rw [div_lt_iff₀ hden', mul_comm]
    exact_mod_cast hmod
  have hlt : (r : ℚ) / den < 2 ^ exponent k / 2 ↔ 2 * r < den * 2 ^ exponent k := by
    rw [div_lt_div_iff₀ hden' two_pos, mul_comm, mul_comm ((2 : ℚ) ^ exponent k)]
    exact_mod_cast Iff.rfl
  have heq : (r : ℚ) / den = 2 ^ exponent k / 2 ↔ 2 * r = den * 2 ^ exponent k := by
    rw [div_eq_div_iff hden'.ne' two_ne_zero, mul_comm, mul_comm ((2 : ℚ) ^ exponent k)]
    exact_mod_cast Iff.rfl
  split
  · rename_i hlow
    rw [← hlt, ← heq] at hlow
    exact isNearest_add_of_low hr hlow
  · rename_i hhigh
    rw [← hlt, ← heq] at hhigh
    exact isNearest_add_of_high hr' hhigh

theorem nearestRank_eq {num den k : Nat} (hden : 0 < den) (h : IsNearest ((num : ℚ) / den) k) :
    nearestRank num den = k :=
  (nearestRank_isNearest num hden).unique h

/-- Every value has a nearest rank. -/
theorem exists_isNearest {x : ℚ} (hx : 0 ≤ x) : ∃ k, IsNearest x k := by
  have hnum : ((x.num.toNat : Nat) : ℚ) = x.num := by
    exact_mod_cast Int.toNat_of_nonneg (Rat.num_nonneg.mpr hx)
  have hnear := nearestRank_isNearest x.num.toNat x.den_pos
  rw [hnum, Rat.num_div_den] at hnear
  exact ⟨_, hnear⟩

/-! ## 3. Ranks with a sign -/

theorem exists_of_isFinite {x : Binary64} (h : x.isFinite = true) : ∃ s k, x = finite s k := by
  cases x with
  | nan => cases h
  | infinity s => cases h
  | finite s k => exact ⟨s, k, rfl⟩

theorem ofRank_fin (s : Sign) (k : Fin infinityRank) : ofRank s k = finite s k := by
  simp [ofRank]

theorem ofRank_of_le {k : Nat} (s : Sign) (h : infinityRank ≤ k) : ofRank s k = infinity s := by
  simp [ofRank, Nat.not_lt.mpr h]

@[simp] theorem ofRank_zero (s : Sign) : ofRank s 0 = zero s := rfl

theorem ofRatio_of_isNearest (s : Sign) {num den k : Nat} (hden : 0 < den)
    (h : IsNearest ((num : ℚ) / den) k) : ofRatio s num den = ofRank s k := by
  rw [ofRatio, nearestRank_eq hden h]

/-! ## 4. Decimals -/

theorem two_pow_mul_unitsPerOne (n : Nat) : 2 ^ n * unitsPerOne = 2 ^ (n + 1074) := by
  rw [Nat.pow_add]

/-- From `10³⁰⁹` on a decimal is past every finite number. -/
theorem infinityRank_le_of_isNearest {c n k : Nat} (hc : 0 < c) (hn : 309 ≤ n)
    (h : IsNearest (c * 10 ^ n * unitsPerOne : Nat) k) : infinityRank ≤ k := by
  refine (isNearest_units infinityRank).mono h ?_
  have hten : 2 ^ 1024 ≤ 10 ^ 309 := by decide +kernel
  have hpow : 10 ^ 309 ≤ 10 ^ n := pow_le_pow_right₀ (by omega) hn
  have hle : 2 ^ 1024 ≤ c * 10 ^ n :=
    (hten.trans hpow).trans (Nat.le_mul_of_pos_left _ hc)
  rw [units_infinityRank]
  exact_mod_cast Nat.mul_le_mul_right unitsPerOne hle

/-- A decimal below half a unit has the nearest rank zero. -/
theorem isNearest_zero_of_small {c n : Nat} (h : c.log2 + 1077 ≤ 3 * (n + 1)) :
    IsNearest ((c * unitsPerOne : Nat) / (10 ^ (n + 1) : Nat)) 0 := by
  have hc : c < 2 ^ (c.log2 + 1) := Nat.lt_log2_self
  have hpow : 2 * (2 ^ (c.log2 + 1) * unitsPerOne) ≤ 10 ^ (n + 1) := by
    calc 2 * (2 ^ (c.log2 + 1) * unitsPerOne)
        = 2 ^ (c.log2 + 1076) := by rw [two_pow_mul_unitsPerOne, ← Nat.pow_succ']
      _ ≤ 2 ^ (3 * (n + 1)) := Nat.pow_le_pow_right (by omega) (by omega)
      _ = 8 ^ (n + 1) := Nat.pow_mul 2 3 (n + 1)
      _ ≤ 10 ^ (n + 1) := Nat.pow_le_pow_left (by omega) _
  have hlt : 2 * (c * unitsPerOne) < 10 ^ (n + 1) :=
    lt_of_lt_of_le
      (Nat.mul_lt_mul_of_pos_left (Nat.mul_lt_mul_of_pos_right hc unitsPerOne_pos) two_pos)
      hpow
  have hmid : halfway 0 = 1 / 2 := by simp [halfway, units_succ, exponent]
  rw [isNearest_iff, hmid]
  refine ⟨fun j hj => absurd hj (Nat.succ_ne_zero j), .inl ?_⟩
  rw [div_lt_div_iff₀ (by positivity) two_pos, one_mul, mul_comm]
  exact_mod_cast hlt

/-- Reading a decimal rounds its exact value once, however large or small
the exponent is. -/
theorem ofDecimal_of_isNearest (s : Sign) {c : Nat} {e : Int} {k : Nat}
    (h : IsNearest (c * 10 ^ e * (unitsPerOne : Nat)) k) : ofDecimal s c e = ofRank s k := by
  cases e with
  | ofNat n =>
    have hx : (c : ℚ) * 10 ^ (Int.ofNat n) * (unitsPerOne : Nat) =
        (c * 10 ^ n * unitsPerOne : Nat) := by
      rw [Int.ofNat_eq_natCast, zpow_natCast, Nat.cast_mul (c * 10 ^ n) unitsPerOne,
        Nat.cast_mul c, Nat.cast_pow 10 n, Nat.cast_ofNat]
    rw [hx] at h
    rw [ofDecimal]
    split
    · rename_i hc
      subst hc
      rw [Nat.zero_mul, Nat.zero_mul, Nat.cast_zero] at h
      rw [h.unique isNearest_zero, ofRank_zero]
    · rename_i hc
      split
      · rename_i hn
        rw [ofRank_of_le s (infinityRank_le_of_isNearest (Nat.pos_of_ne_zero hc) hn h)]
      · exact ofRatio_of_isNearest s one_pos (by rwa [Nat.cast_one, div_one])
  | negSucc n =>
    have hx : (c : ℚ) * 10 ^ (Int.negSucc n) * (unitsPerOne : Nat) =
        (c * unitsPerOne : Nat) / (10 ^ (n + 1) : Nat) := by
      rw [zpow_negSucc, Nat.cast_mul c unitsPerOne, Nat.cast_pow 10 (n + 1), Nat.cast_ofNat,
        div_eq_mul_inv, mul_right_comm]
    rw [hx] at h
    rw [ofDecimal]
    split
    · rename_i hsmall
      rw [h.unique (isNearest_zero_of_small hsmall), ofRank_zero]
    · exact ofRatio_of_isNearest s (Nat.pow_pos (by omega)) h

end Quadratic.Binary64
