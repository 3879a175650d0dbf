/-
Quadratic.Proofs.CorrectReading — a token is read as the number nearest to
what it denotes.

A token is judged by its exact value, which is a rational number however
many digits and however large an exponent it has. The reader never has
that value in its hands: it compares the exponent with two bounds before
it computes a quotient, and it rounds on ranks. None of this can be seen
from outside.

* `exists_isNearest_toBinary64` — a literal is rounded once.
* `numberOf_rounds_once` — which tokens are refused, with which message,
  and as which number the others are read.
-/
import Quadratic.Console.Token
import Quadratic.Proofs.FiniteRange
import Quadratic.Proofs.Grammar

namespace Quadratic

open Binary64 Decimal

/-! ## 1. Literals -/

namespace Decimal.Literal

theorem abs_value (l : Literal) : |l.value| = l.coefficient * 10 ^ l.power := by
  have hpow : (0 : ℚ) ≤ 10 ^ l.power := zpow_nonneg (by norm_num) l.power
  rw [value, abs_mul, abs_of_nonneg hpow]
  cases l.sign with
  | plus => rw [Sign.apply, Int.cast_natCast, Nat.abs_cast]
  | minus => rw [Sign.apply, Int.cast_neg, Int.cast_natCast, abs_neg, Nat.abs_cast]

theorem value_eq_apply (l : Literal) : l.value = l.sign.apply 1 * |l.value| := by
  rw [abs_value, value]
  cases l.sign with
  | plus => simp only [Sign.apply, Nat.cast_one, Int.cast_one, one_mul, Int.cast_natCast]
  | minus =>
    simp only [Sign.apply, Nat.cast_one, Int.cast_neg, Int.cast_one, Int.cast_natCast, neg_mul,
      one_mul]

/-- The number of a literal has the sign of the literal and the rank
nearest to its value. -/
theorem exists_isNearest_toBinary64 (l : Literal) :
    ∃ k, IsNearest (|l.value| * (unitsPerOne : Nat)) k ∧ l.toBinary64 = ofRank l.sign k := by
  obtain ⟨k, hk⟩ := exists_isNearest (mul_nonneg (abs_nonneg l.value) cast_unitsPerOne_pos.le)
  refine ⟨k, hk, ?_⟩
  rw [abs_value] at hk
  exact ofDecimal_of_isNearest l.sign hk

end Decimal.Literal

/-! ## 2. Tokens -/

namespace Console

/-- A token that is refused with a message. -/
def RefusedWith (t message : String) : Prop := ∃ e, numberOf t = .error e ∧ e.message = message

/-- A literal is refused if its number is infinite. -/
theorem numberOf_of_scan {t : String} {l : Literal}
    (h : Literal.scan digit? t.toList = some l) {k : Nat} (hround : l.toBinary64 = ofRank l.sign k) :
    numberOf t = if h : k < infinityRank then .ok (finite l.sign ⟨k, h⟩) else
      .error (.outOfRange t) := by
  simp only [numberOf, h, hround, ofRank]
  split <;> rfl

/-- How a token is read. One that is no literal of the grammar, with the
digits of any scripts, is refused as that. Of the others those are refused
whose value is at least halfway from the largest finite number to 2¹⁰²⁴. The
rest are read as the finite number that is nearest to the value, of two
nearest ones the one with an even significand; the number has the sign of
the literal, also if it is zero. -/
theorem numberOf_rounds_once (t : String) :
    ((∀ l, ¬ Literal.Spells digit? t.toList l) →
      RefusedWith t ("Not a decimal number: " ++ Text.quoted t)) ∧
    ∀ l, Literal.Spells digit? t.toList l →
      (overflowBound ≤ |l.value| → RefusedWith t ("Number out of range: " ++ Text.quoted t)) ∧
      (|l.value| < overflowBound →
        ∃ k, numberOf t = .ok (finite l.sign k) ∧ IsNearestFinite l.value l.sign k) := by
  refine ⟨fun hnone => ?_, fun l hl => ?_⟩
  · have hscan : Literal.scan digit? t.toList = none := by
      rw [Option.eq_none_iff_forall_ne_some]
      exact fun l hl => hnone l ((Literal.scan_eq_some_iff avoidsMarks_digit?).mp hl)
    exact ⟨.notDecimal t, by rw [numberOf, hscan], rfl⟩
  · have hscan := (Literal.scan_eq_some_iff avoidsMarks_digit?).mpr hl
    obtain ⟨k, hnearest, hround⟩ := l.exists_isNearest_toBinary64
    have hread := numberOf_of_scan hscan hround
    have hlarge := infinityRank_le_iff hnearest
    constructor
    · intro hbound
      rw [dif_neg (Nat.not_lt.mpr (hlarge.mpr hbound))] at hread
      exact ⟨.outOfRange t, hread, rfl⟩
    · intro hbound
      have hk : k < infinityRank := Nat.not_le.mp fun hle => not_le.mpr hbound (hlarge.mp hle)
      rw [dif_pos hk] at hread
      refine ⟨⟨k, hk⟩, hread, ?_⟩
      rw [l.value_eq_apply]
      exact IsNearest.isNearestFinite (abs_nonneg l.value) (k := ⟨k, hk⟩) hnearest l.sign

/-- A separator is not of the grammar, an exponent is too large, and a value
with digits of two scripts is halfway between two numbers. -/
theorem numberOf_rounds_once_halfway :
    RefusedWith "1_0" "Not a decimal number: '1_0'" ∧
    RefusedWith "-1e400" "Number out of range: '-1e400'" ∧
    ∃ k, numberOf "٩007199254740993" = .ok (finite .plus k) ∧
      IsNearestFinite 9007199254740993 .plus k := by
  refine ⟨?_, ?_, ?_⟩
  · have hnone : ∀ l, ¬ Literal.Spells digit? "1_0".toList l := by
      intro l hl
      have hscan := (Literal.scan_eq_some_iff avoidsMarks_digit?).mpr hl
      cases hscan
    exact (numberOf_rounds_once "1_0").1 hnone
  · have hspells : Literal.Spells digit? "-1e400".toList ⟨.minus, [1], [], 400⟩ :=
      (Literal.scan_eq_some_iff avoidsMarks_digit?).mp rfl
    exact ((numberOf_rounds_once "-1e400").2 _ hspells).1 (by decide +kernel)
  · have hspells : Literal.Spells digit? "٩007199254740993".toList
        ⟨.plus, [9, 0, 0, 7, 1, 9, 9, 2, 5, 4, 7, 4, 0, 9, 9, 3], [], 0⟩ :=
      (Literal.scan_eq_some_iff avoidsMarks_digit?).mp rfl
    have hvalue : Literal.value ⟨.plus, [9, 0, 0, 7, 1, 9, 9, 2, 5, 4, 7, 4, 0, 9, 9, 3], [], 0⟩ =
        9007199254740993 := by decide +kernel
    have hread := ((numberOf_rounds_once "٩007199254740993").2 _ hspells).2
    rw [hvalue] at hread
    exact hread (by decide +kernel)

end Console

end Quadratic
