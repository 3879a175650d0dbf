/-
Quadratic.Proofs.Integers — where the calculator makes no mistake.

An operation whose exact result is a number of the format returns that
number (`IsRounded.hasValue`), so a computation is exact as long as every
intermediate result is representable. The integers up to 2⁵³ are, and so
are their multiples by powers of two (`representable_mul_two_pow`).

* `numberOf_of_denotes` — a token that denotes a representable value is
  accepted with that value, however it is spelled.
* `discriminant_hasValue` — the discriminant of three integers is exact if
  `b²`, `4ac` and their difference stay within 2⁵³. The product `4a` need
  not: it only moves the exponent.
* `run_of_integers` — both together, for a whole run.
-/
import Quadratic.Proofs.Classification
import Quadratic.Proofs.Grammar
import Quadratic.Proofs.Transcript

namespace Quadratic

namespace Binary64

/-! ## 1. Exact results -/

/-- A finite number with its exact value. -/
structure HasValue (x : Binary64) (v : ℚ) : Prop where
  isFinite : x.isFinite = true
  toRat_eq : x.toRat = v

/-- A value that needs no rounding. -/
def Representable (v : ℚ) : Prop := ∃ x : Binary64, x.HasValue v

theorem abs_toRat_finite (s : Sign) (k : Fin infinityRank) :
    |toRat (finite s k)| = units k / (unitsPerOne : Nat) := by
  have hnonneg : (0 : ℚ) ≤ units k / (unitsPerOne : Nat) :=
    div_nonneg (Nat.cast_nonneg _) cast_unitsPerOne_pos.le
  cases s with
  | plus => rw [toRat_plus, abs_of_nonneg hnonneg]
  | minus => rw [toRat_minus, abs_neg, abs_of_nonneg hnonneg]

/-- A representable value is not changed by rounding. -/
theorem IsRounded.hasValue {v : ℚ} {x : Binary64} (h : IsRounded v x) (hv : Representable v) :
    x.HasValue v := by
  obtain ⟨y, hy, rfl⟩ := hv
  obtain ⟨s, j, rfl⟩ := exists_of_isFinite hy
  have hunits : |toRat (finite s j)| * (unitsPerOne : Nat) = units j := by
    rw [abs_toRat_finite, div_mul_cancel₀ _ cast_unitsPerOne_pos.ne']
  cases h with
  | plus hnonneg hnear =>
    rw [← abs_of_nonneg hnonneg, hunits] at hnear
    rw [hnear.unique (isNearest_units j), ofRank_fin]
    exact ⟨rfl, by rw [toRat_plus, ← abs_toRat_finite s, abs_of_nonneg hnonneg]⟩
  | minus hnonpos hnear =>
    rw [← abs_of_nonpos hnonpos, hunits] at hnear
    rw [hnear.unique (isNearest_units j), ofRank_fin]
    exact ⟨rfl, by rw [toRat_minus, ← abs_toRat_finite s, abs_of_nonpos hnonpos, neg_neg]⟩

theorem HasValue.mul {x y : Binary64} {v w : ℚ} (hx : x.HasValue v) (hy : y.HasValue w)
    (h : Representable (v * w)) : (x.mul y).HasValue (v * w) := by
  obtain ⟨hx, rfl⟩ := hx
  obtain ⟨hy, rfl⟩ := hy
  obtain ⟨s, j, rfl⟩ := exists_of_isFinite hx
  obtain ⟨t, k, rfl⟩ := exists_of_isFinite hy
  exact (mul_isRounded s t j k).hasValue h

theorem HasValue.sub {x y : Binary64} {v w : ℚ} (hx : x.HasValue v) (hy : y.HasValue w)
    (h : Representable (v - w)) : (x.sub y).HasValue (v - w) := by
  obtain ⟨hx, rfl⟩ := hx
  obtain ⟨hy, rfl⟩ := hy
  obtain ⟨s, j, rfl⟩ := exists_of_isFinite hx
  obtain ⟨t, k, rfl⟩ := exists_of_isFinite hy
  exact (sub_isRounded s t j k).hasValue h

/-! ## 2. Integers -/

/-- An integer of at most 53 bits times a power of two is a number of the
format, up to its largest exponent. -/
theorem representable_mul_two_pow {m : Int} (hm : |m| ≤ 2 ^ 53) {e : Nat} (he : e ≤ 970) :
    Representable (m * 2 ^ e) := by
  have hm' : m.natAbs ≤ 2 ^ 53 := by
    rw [Int.abs_eq_natAbs] at hm
    omega
  obtain ⟨k, hk⟩ := exists_rank_of_le hm' (e + 1074)
  rw [← two_pow_mul_unitsPerOne, ← Nat.mul_assoc] at hk
  have hlt : k < infinityRank := by
    refine lt_infinityRank hk ?_
    calc m.natAbs * 2 ^ e
        ≤ 2 ^ 53 * 2 ^ e := Nat.mul_le_mul_right _ hm'
      _ = 2 ^ (53 + e) := (pow_add 2 53 e).symm
      _ < 2 ^ 1024 := pow_lt_pow_right₀ one_lt_two (by omega)
  have hvalue : (units k : ℚ) / (unitsPerOne : Nat) = |(m : ℚ)| * 2 ^ e := by
    rw [hk, Nat.cast_mul (m.natAbs * 2 ^ e), mul_div_cancel_right₀ _ cast_unitsPerOne_pos.ne',
      Nat.cast_mul, Nat.cast_pow, Nat.cast_ofNat, Nat.cast_natAbs, Int.cast_abs]
  rcases le_total 0 (m : ℚ) with hsign | hsign
  · refine ⟨finite .plus ⟨k, hlt⟩, rfl, ?_⟩
    rw [toRat_plus, hvalue, abs_of_nonneg hsign]
  · refine ⟨finite .minus ⟨k, hlt⟩, rfl, ?_⟩
    rw [toRat_minus, hvalue, abs_of_nonpos hsign, neg_mul, neg_neg]

theorem representable_intCast {m : Int} (hm : |m| ≤ 2 ^ 53) : Representable m := by
  have h := representable_mul_two_pow hm (Nat.zero_le 970)
  rwa [pow_zero, mul_one] at h

theorem HasValue.mul_intCast {x y : Binary64} {m n : Int} (hx : x.HasValue m) (hy : y.HasValue n)
    (h : |m * n| ≤ 2 ^ 53) : (x.mul y).HasValue (m * n : Int) := by
  have hrep := representable_intCast h
  rw [Int.cast_mul] at hrep ⊢
  exact hx.mul hy hrep

theorem four_hasValue : Coefficients.four.HasValue 4 := by
  obtain ⟨k, hfour, hk⟩ := exists_four_eq
  rw [hfour]
  refine ⟨rfl, ?_⟩
  rw [toRat_plus, hk, Nat.cast_mul 4, mul_div_cancel_right₀ _ cast_unitsPerOne_pos.ne',
    Nat.cast_ofNat]

end Binary64

open Binary64

/-- The discriminant of integers in the exact range. -/
theorem Coefficients.discriminant_hasValue {q : Coefficients} {a b c : Int}
    (ha : q.a.HasValue a) (hb : q.b.HasValue b) (hc : q.c.HasValue c) (ha' : |a| ≤ 2 ^ 53)
    (hsquare : b ^ 2 ≤ 2 ^ 53) (hproduct : |4 * a * c| ≤ 2 ^ 53)
    (hdiff : |b ^ 2 - 4 * a * c| ≤ 2 ^ 53) :
    q.discriminant.HasValue (b ^ 2 - 4 * a * c : Int) := by
  have hbb : (q.b.mul q.b).HasValue (b ^ 2 : Int) := by
    rw [sq]
    refine hb.mul_intCast hb ?_
    rwa [← sq, abs_of_nonneg (sq_nonneg b)]
  have hfour : (four.mul q.a).HasValue (4 * a : Int) := by
    -- The product may have 55 bits, but not more than 53 that count.
    have hrep := representable_mul_two_pow ha' (e := 2) (by omega)
    rw [mul_comm, show (2 : ℚ) ^ 2 = 4 by norm_num] at hrep
    rw [Int.cast_mul, Int.cast_ofNat]
    exact four_hasValue.mul ha hrep
  have hac : ((four.mul q.a).mul q.c).HasValue (4 * a * c : Int) := hfour.mul_intCast hc hproduct
  have hrep := representable_intCast hdiff
  rw [Int.cast_sub] at hrep ⊢
  exact hbb.sub hac hrep

/-! ## 3. Tokens and runs -/

namespace Console

/-- A token is read as its exact value if the format has it. -/
theorem numberOf_of_denotes {t : String} {v : ℚ} (ht : Decimal.Denotes t v)
    (hv : Representable v) : ∃ x, numberOf t = .ok x ∧ x.HasValue v := by
  obtain ⟨l, hscan, rfl⟩ := Decimal.denotes_iff_scan.mp ht
  have hvalue : l.toBinary64.HasValue l.value :=
    (ofDecimal_isRounded l.sign l.coefficient l.power).hasValue hv
  refine ⟨l.toBinary64, ?_, hvalue⟩
  simp only [numberOf, hscan, hvalue.isFinite, if_true]

theorem hasValue_of_denotes {t : String} {x : Binary64} {m : Int} (hx : numberOf t = .ok x)
    (ht : Decimal.Denotes t m) (hm : |m| ≤ 2 ^ 53) : x.HasValue m := by
  obtain ⟨y, hy, hvalue⟩ := numberOf_of_denotes ht (representable_intCast hm)
  rw [hx] at hy
  cases hy
  exact hvalue

/-- A run on integers. If the first three accepted tokens denote integers,
in whatever spelling, and none of `a`, `c`, `b²`, `4ac` and `b² - 4ac` is
beyond `2⁵³`, then the discriminant is the exact integer and the root
count its exact sign. -/
theorem run_of_integers {input : List Char} {ta tb tc : String} {rest : List String}
    (htokens : (Text.tokens input).filter isAccepted = ta :: tb :: tc :: rest) {a b c : Int}
    (hta : Decimal.Denotes ta a) (htb : Decimal.Denotes tb b) (htc : Decimal.Denotes tc c)
    (ha : |a| ≤ 2 ^ 53) (hc : |c| ≤ 2 ^ 53) (hsquare : b ^ 2 ≤ 2 ^ 53)
    (hproduct : |4 * a * c| ≤ 2 ^ 53) (hdiff : |b ^ 2 - 4 * a * c| ≤ 2 ^ 53) :
    ∃ e, (run input).value = some e ∧
      e.discriminant.HasValue (b ^ 2 - 4 * a * c : Int) ∧
      (e.rootCount = .two ↔ 0 < b ^ 2 - 4 * a * c) ∧
      (e.rootCount = .one ↔ b ^ 2 - 4 * a * c = 0) ∧
      (e.rootCount = .none ↔ b ^ 2 - 4 * a * c < 0) := by
  obtain ⟨x, y, z, hx, hy, hz, hrun⟩ := run_of_accepted htokens
  have hb : |b| ≤ 2 ^ 53 := by
    refine le_trans ?_ hsquare
    rw [← sq_abs]
    exact Int.le_self_sq _
  have hdisc := Coefficients.discriminant_hasValue (q := ⟨x, y, z⟩) (hasValue_of_denotes hx hta ha)
    (hasValue_of_denotes hy htb hb) (hasValue_of_denotes hz htc hc) ha hsquare hproduct hdiff
  have hcount := RootCount.ofDiscriminant_of_isFinite hdisc.isFinite
  rw [hdisc.toRat_eq, Int.cast_pos, Int.cast_eq_zero, Int.cast_lt_zero] at hcount
  exact ⟨_, hrun, hdisc, hcount⟩

/-- The equation `x² + 5x + 6 = 0`, each number spelled in another way. -/
def spelled : List Char := "x +0.1e1 ٥.\n600e-2 7".toList

theorem run_of_spelled :
    ∃ e, (run spelled).value = some e ∧ e.discriminant.HasValue 1 ∧ e.rootCount = .two := by
  have htokens : (Text.tokens spelled).filter isAccepted = ["+0.1e1", "٥.", "600e-2", "7"] := by
    decide +kernel
  have ha : Decimal.Denotes "+0.1e1" (1 : Int) :=
    Decimal.denotes_iff_scan.mpr ⟨⟨.plus, [0], [1], 1⟩, rfl, by decide +kernel⟩
  have hb : Decimal.Denotes "٥." (5 : Int) :=
    Decimal.denotes_iff_scan.mpr ⟨⟨.plus, [5], [], 0⟩, rfl, by decide +kernel⟩
  have hc : Decimal.Denotes "600e-2" (6 : Int) :=
    Decimal.denotes_iff_scan.mpr ⟨⟨.plus, [6, 0, 0], [], -2⟩, rfl, by decide +kernel⟩
  obtain ⟨e, hrun, hvalue, htwo, -⟩ := run_of_integers htokens ha hb hc (by decide) (by decide)
    (by decide) (by decide) (by decide)
  exact ⟨e, hrun, by simpa using hvalue, htwo.mpr (by decide)⟩

end Console

end Quadratic
