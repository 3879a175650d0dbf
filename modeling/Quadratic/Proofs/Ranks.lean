/-
Quadratic.Proofs.Ranks — the exact values of the ranks: they grow
strictly, and in steps that double from one run to the next.

* `units_run` — a rank written as `s · 2⁵² + q`, with `q` a significand,
  has the value `q · 2^s`. The top significand `2⁵³` is let in as well:
  it is the first number of the next run, and the formula does not
  notice. Everything else in this module comes from it.
* `rank_eq` — every rank is of that form, in one way.
* `units_succ`, `units_strictMono` — the step from one rank to the next.
* `exists_rank_of_le` — the values up to 2⁵³ steps of one spacing are all
  there, which is how a result is shown to need no rounding.
* `lt_infinityRank` — a rank is finite if its value is below 2¹⁰²⁴.
-/
import Mathlib.Order.Monotone.Basic
import Mathlib.Tactic.Ring
import Quadratic.Binary64.Rounding

namespace Quadratic.Binary64

/-! ## 1. Ranks by run and significand -/

/-- A number of steps that belongs to the run of `s` doublings: fewer
than `2⁵³`, and in every run but the first at least `2⁵²`. -/
def IsSignificand (s q : Nat) : Prop := q < 2 ^ 53 ∧ (s = 0 ∨ 2 ^ 52 ≤ q)

theorem exponent_run {s q : Nat} (h : IsSignificand s q) : exponent (s * 2 ^ 52 + q) = s := by
  obtain ⟨hq, hs⟩ := h
  unfold exponent
  omega

theorem significand_run {s q : Nat} (h : IsSignificand s q) :
    significand (s * 2 ^ 52 + q) = q := by
  obtain ⟨hq, hs⟩ := h
  unfold significand
  split <;> omega

/-- The value of a rank, read off from its run and its significand. The
significand may be `2⁵³`: that is where the next run begins. -/
theorem units_run {s q : Nat} (hq : q ≤ 2 ^ 53) (hs : s = 0 ∨ 2 ^ 52 ≤ q) :
    units (s * 2 ^ 52 + q) = q * 2 ^ s := by
  rcases Nat.lt_or_eq_of_le hq with hlt | rfl
  · rw [units, significand_run ⟨hlt, hs⟩, exponent_run ⟨hlt, hs⟩]
  · have hnext : IsSignificand (s + 1) (2 ^ 52) := ⟨by omega, .inr (Nat.le_refl _)⟩
    have hrank : s * 2 ^ 52 + 2 ^ 53 = (s + 1) * 2 ^ 52 + 2 ^ 52 := by omega
    rw [hrank, units, significand_run hnext, exponent_run hnext, Nat.pow_succ]
    omega

theorem isSignificand_significand (k : Nat) : IsSignificand (exponent k) (significand k) := by
  unfold IsSignificand exponent significand
  split <;> omega

/-- Every rank is a run and a significand. -/
theorem rank_eq (k : Nat) : exponent k * 2 ^ 52 + significand k = k := by
  unfold exponent significand
  split <;> omega

/-! ## 2. Steps -/

/-- The next magnitude is one spacing further. -/
theorem units_succ (k : Nat) : units (k + 1) = units k + 2 ^ exponent k := by
  obtain ⟨hq, hs⟩ := isSignificand_significand k
  have hk : exponent k * 2 ^ 52 + (significand k + 1) = k + 1 := by
    rw [← Nat.add_assoc, rank_eq]
  have hrun := units_run (q := significand k + 1) (by omega) (hs.imp_right Nat.le_succ_of_le)
  rw [← hk, hrun, Nat.succ_mul, units]

theorem units_strictMono : StrictMono units := by
  apply strictMono_nat_of_lt_succ
  intro k
  rw [units_succ]
  exact Nat.lt_add_of_pos_right (Nat.two_pow_pos _)

@[simp] theorem units_zero : units 0 = 0 := by simp [units, significand]

@[simp] theorem units_one : units 1 = 1 := by simp [units_succ, exponent]

/-- Ranks without rounding: every number of steps up to `2⁵³`, in any
spacing, is the value of a rank. -/
theorem exists_rank_of_le {m : Nat} (hm : m ≤ 2 ^ 53) (e : Nat) : ∃ k, units k = m * 2 ^ e := by
  -- Halving the spacing as long as the number of steps stays within 2⁵³
  -- ends in the run that the value belongs to.
  induction e generalizing m with
  | zero => exact ⟨m, by simpa using units_run (s := 0) hm (.inl rfl)⟩
  | succ e ih =>
    by_cases hbig : 2 ^ 52 ≤ m
    · exact ⟨(e + 1) * 2 ^ 52 + m, units_run hm (.inr hbig)⟩
    · obtain ⟨k, hk⟩ := ih (m := 2 * m) (by omega)
      exact ⟨k, by rw [hk, Nat.pow_succ]; ring⟩

/-! ## 3. The end of the finite ranks -/

/-- The rank of infinity continues the format at `2¹⁰²⁴`. -/
theorem units_infinityRank : units infinityRank = 2 ^ 1024 * unitsPerOne := by
  have hrun := units_run (s := 2046) (q := 2 ^ 52) (by omega) (.inr (Nat.le_refl _))
  have hrank : 2046 * 2 ^ 52 + 2 ^ 52 = infinityRank := by decide
  have hpow : 2 ^ 52 * 2 ^ 2046 = 2 ^ 1024 * unitsPerOne := by decide +kernel
  rw [← hrank, hrun, hpow]

theorem unitsPerOne_pos : 0 < unitsPerOne := by decide +kernel

/-- Below that the ranks are finite. -/
theorem lt_infinityRank {k n : Nat} (hk : units k = n * unitsPerOne) (hn : n < 2 ^ 1024) :
    k < infinityRank := by
  rw [← units_strictMono.lt_iff_lt, hk, units_infinityRank]
  exact (Nat.mul_lt_mul_right unitsPerOne_pos).mpr hn

end Quadratic.Binary64
