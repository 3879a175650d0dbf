/-
Quadratic.Proofs.Shortest — the shortest decimal of a number rounds to
that number.

The search works in units of 10⁻¹⁰⁷⁴ and compares with doubled ends; the
specification of rounding works in units of 2⁻¹⁰⁷⁴ and with halves.
`contains_iff` says that the two meet: a decimal is in the interval of a
rank exactly if that rank is nearest to it. The grid at which the search
stops has a multiple in the interval (`exists_coarsest`); there is such a
grid, because the finest one holds the number itself.
-/
import Mathlib.Tactic.Linarith
import Quadratic.Decimal.Shortest
import Quadratic.Proofs.Nearest

namespace Quadratic.Decimal

open Binary64

/-! ## 1. Units of both kinds -/

theorem unitRatio_pos : 0 < unitRatio := by decide +kernel

theorem ten_pow_eq : 10 ^ 1074 = unitRatio * unitsPerOne := by decide +kernel

theorem ten_zpow_natCast (n : Nat) : (10 : ℚ) ^ (n : Int) = (10 ^ n : Nat) := by
  rw [zpow_natCast, Nat.cast_pow, Nat.cast_ofNat]

/-- The exact value of a decimal. -/
def value (d : Decimal) : ℚ := d.coefficient * 10 ^ d.exponent

/-- A whole number of units of 10⁻¹⁰⁷⁴, counted in units of 2⁻¹⁰⁷⁴. -/
theorem value_mul_unitsPerOne (c m : Nat) :
    value ⟨c, (m : Int) - 1074⟩ * (unitsPerOne : Nat) = (c * 10 ^ m : Nat) / (unitRatio : Nat) := by
  have hU : ((unitsPerOne : Nat) : ℚ) ≠ 0 := Nat.cast_ne_zero.mpr unitsPerOne_pos.ne'
  have hR : (unitRatio : ℚ) ≠ 0 := Nat.cast_ne_zero.mpr unitRatio_pos.ne'
  have hten : (10 : ℚ) ^ (1074 : Int) = unitRatio * (unitsPerOne : Nat) := by
    have h := ten_zpow_natCast 1074
    rwa [ten_pow_eq, Nat.cast_mul unitRatio, Nat.cast_ofNat] at h
  rw [value, zpow_sub₀ (by norm_num), hten, ten_zpow_natCast, Nat.cast_mul c]
  field_simp

/-! ## 2. Intervals -/

theorem halfway_lt_div_iff (j n : Nat) :
    halfway j < (n : ℚ) / unitRatio ↔ scaled j + scaled (j + 1) < 2 * n := by
  have hR : (0 : ℚ) < unitRatio := Nat.cast_pos.mpr unitRatio_pos
  rw [halfway, div_lt_div_iff₀ two_pos hR, scaled_eq, scaled_eq, ← Nat.add_mul, mul_comm (n : ℚ)]
  exact_mod_cast Iff.rfl

theorem div_lt_halfway_iff (k n : Nat) :
    (n : ℚ) / unitRatio < halfway k ↔ 2 * n < scaled k + scaled (k + 1) := by
  have hR : (0 : ℚ) < unitRatio := Nat.cast_pos.mpr unitRatio_pos
  rw [halfway, div_lt_div_iff₀ hR two_pos, scaled_eq, scaled_eq, ← Nat.add_mul, mul_comm (n : ℚ)]
  exact_mod_cast Iff.rfl

theorem div_eq_halfway_iff (k n : Nat) :
    (n : ℚ) / unitRatio = halfway k ↔ 2 * n = scaled k + scaled (k + 1) := by
  have hR : (0 : ℚ) < unitRatio := Nat.cast_pos.mpr unitRatio_pos
  rw [halfway, div_eq_div_iff hR.ne' two_ne_zero, scaled_eq, scaled_eq, ← Nat.add_mul,
    mul_comm (n : ℚ)]
  exact_mod_cast Iff.rfl

/-- The interval of a rank holds the decimals that the rank is nearest
to. -/
theorem contains_iff {k : Nat} (hk : 0 < k) (n : Nat) :
    (Interval.ofRank k).contains n = true ↔ IsNearest ((n : ℚ) / unitRatio) k := by
  obtain ⟨j, rfl⟩ : ∃ j, k = j + 1 := ⟨k - 1, by omega⟩
  have hlow := halfway_lt_div_iff j n
  have hhigh := div_lt_halfway_iff (j + 1) n
  have hlow' := div_eq_halfway_iff j n
  have hhigh' := div_eq_halfway_iff (j + 1) n
  have hneighbour : (∀ i, i + 1 = j + 1 →
        halfway i < (n : ℚ) / unitRatio ∨ (halfway i = (n : ℚ) / unitRatio ∧ (j + 1) % 2 = 0)) ↔
      (halfway j < (n : ℚ) / unitRatio ∨
        (halfway j = (n : ℚ) / unitRatio ∧ (j + 1) % 2 = 0)) := by
    constructor
    · intro h
      exact h j rfl
    · rintro h i hi
      obtain rfl : i = j := by omega
      exact h
  rw [isNearest_iff, hneighbour, hlow, hhigh, eq_comm (a := halfway j), hlow', hhigh']
  unfold Interval.contains Interval.ofRank
  rw [Nat.add_sub_cancel]
  by_cases heven : (j + 1) % 2 = 0
  · simp only [heven, decide_true, if_true, decide_eq_true_eq, and_true]
    omega
  · simp only [heven, decide_false, Bool.false_eq_true, if_false, decide_eq_true_eq, and_false,
      or_false]

/-- A multiple that the search finds is in the interval. -/
theorem multiple?_contains {i : Interval} {step c : Nat} (h : i.multiple? step = some c) :
    i.contains (c * step) = true := by
  unfold Interval.multiple? at h
  dsimp only at h
  split at h
  · rename_i h₀ h₁
    split at h
    · cases h
      exact h₀
    · cases h
      exact h₁
  · rename_i h₀ _
    cases h
    exact h₀
  · rename_i _ h₁
    cases h
    exact h₁
  · cases h

/-! ## 3. The search -/

theorem Interval.multiple?_one {i : Interval} (hvalue : i.contains i.value = true) :
    i.multiple? 1 = some i.value := by
  have hself : i.contains (i.value * 1) = true := by rwa [Nat.mul_one]
  unfold Interval.multiple?
  rw [Nat.div_one, Nat.mod_one]
  dsimp only
  rw [hself]
  cases i.contains ((i.value + 1) * 1) <;> rfl

/-- The search stops at a grid where a multiple is found, and at no coarser
one it went through is there any. -/
theorem Interval.exists_coarsest {i : Interval} (hvalue : i.contains i.value = true) (g : Nat) :
    ∃ c m : Nat, i.coarsest g = ⟨c, (m : Int) - 1074⟩ ∧ i.multiple? (10 ^ m) = some c ∧
      ∀ m', m < m' → m' ≤ g → i.multiple? (10 ^ m') = none := by
  induction g with
  | zero => exact ⟨i.value, 0, rfl, multiple?_one hvalue, fun m' h h' => by omega⟩
  | succ g ih =>
    unfold Interval.coarsest
    split
    · rename_i c hc
      exact ⟨c, g + 1, rfl, hc, fun m' h h' => by omega⟩
    · rename_i hnone
      obtain ⟨c, m, hd, hc, hcoarser⟩ := ih
      refine ⟨c, m, hd, hc, fun m' h h' => ?_⟩
      rcases Nat.lt_or_eq_of_le h' with hlt | rfl
      · exact hcoarser m' h (Nat.le_of_lt_succ hlt)
      · exact hnone

/-- A number is in its own interval. -/
theorem contains_value {k : Nat} (hk : 0 < k) :
    (Interval.ofRank k).contains (Interval.ofRank k).value = true := by
  have hR : (unitRatio : ℚ) ≠ 0 := Nat.cast_ne_zero.mpr unitRatio_pos.ne'
  rw [contains_iff hk]
  have hvalue : ((Interval.ofRank k).value : ℚ) / unitRatio = units k := by
    rw [Interval.ofRank, scaled_eq, Nat.cast_mul, mul_div_cancel_right₀ _ hR]
  rw [hvalue]
  exact isNearest_units k

/-- The shortest decimal of a positive magnitude rounds to it. -/
theorem shortest_isNearest {k : Nat} (hk : 0 < k) :
    IsNearest ((shortest k).value * (unitsPerOne : Nat)) k := by
  obtain ⟨c, m, hd, hc, -⟩ :=
    Interval.exists_coarsest (contains_value hk) ((Interval.ofRank k).value.log2 / 3 + 1)
  have hshortest : shortest k = ⟨c, (m : Int) - 1074⟩ := hd
  rw [hshortest, value_mul_unitsPerOne]
  exact (contains_iff hk _).mp (multiple?_contains hc)

/-- A decimal that rounds to a positive magnitude is not zero. -/
theorem coefficient_shortest_ne_zero {k : Nat} (hk : 0 < k) : (shortest k).coefficient ≠ 0 := by
  intro hzero
  have h := shortest_isNearest hk
  rw [value, hzero, Nat.cast_zero, zero_mul, zero_mul] at h
  exact hk.ne' (h.unique isNearest_zero)

end Quadratic.Decimal
