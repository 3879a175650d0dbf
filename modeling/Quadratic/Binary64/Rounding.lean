/-
Quadratic.Binary64.Rounding — rounding of exact values to the format:
to the nearest number, and of two nearest ones to the one of even rank.

The exact value is a quotient of natural numbers, in units of 2⁻¹⁰⁷⁴.
`nearestRank` rounds it as if the exponent had no upper bound, and
`ofRatio` turns a rank past the last finite one into an infinity. The
rank that stands for infinity has the value 2¹⁰²⁴ and is even, so
overflow begins at the value halfway between the largest finite number
and 2¹⁰²⁴, that value included; there is no separate rule for it, nor
one for the carry into the next run of ranks or for the small
numbers of the first run.

Arithmetic is one exact operation followed by one rounding.
-/
import Quadratic.Binary64.Basic

-- A power is the one of the core library, whatever other instances are
-- imported.
attribute [local instance (high)] instPowNat

namespace Quadratic.Binary64

/-! ## 1. Nearest rank -/

/-- How many doublings of the spacing the run of the value `w` has. -/
def scale (w : Nat) : Nat := w.log2 - 52

/-- The rank of the largest magnitude that is not above `num / den`. -/
def floorRank (num den : Nat) : Nat :=
  let s := scale (num / den)
  s * 2 ^ (52 : Nat) + num / (den * 2 ^ s)

/-- The rank nearest to `num / den`; of two, the even one. -/
def nearestRank (num den : Nat) : Nat :=
  let step := den * 2 ^ scale (num / den)
  let k := floorRank num den
  let excess := 2 * (num % step)
  if excess < step ∨ (excess = step ∧ k % 2 = 0) then k else k + 1

/-- A rank with a sign; a rank past the finite ones is an infinity. -/
def ofRank (s : Sign) (k : Nat) : Binary64 :=
  if h : k < infinityRank then finite s ⟨k, h⟩ else infinity s

/-- The number nearest to `num / den` units, with the given sign. -/
def ofRatio (s : Sign) (num den : Nat) : Binary64 :=
  ofRank s (nearestRank num den)

/-! ## 2. Integers and decimals -/

/-- The number nearest to an integer. -/
def ofInt (i : Int) : Binary64 :=
  ofRatio (Sign.ofInt i) (i.natAbs * unitsPerOne) 1

/-- The number nearest to `coefficient · 10 ^ exponent`, with the given
sign. Two comparisons come before the exact quotient, so that the size
of the exponent alone never decides how long the work takes: a nonzero
coefficient times 10³⁰⁹ or more is past every finite number, and a
coefficient of at most `3 · n - 1076` bits over `10 ^ n` is below half a
unit. -/
def ofDecimal (s : Sign) (coefficient : Nat) : Int → Binary64
  | .ofNat n =>
      if coefficient = 0 then zero s
      else if 309 ≤ n then infinity s
      else ofRatio s (coefficient * 10 ^ n * unitsPerOne) 1
  | .negSucc n =>
      if coefficient.log2 + 1077 ≤ 3 * (n + 1) then zero s
      else ofRatio s (coefficient * unitsPerOne) (10 ^ (n + 1))

/-! ## 3. Multiplication and subtraction -/

/-- The rounded product. -/
def mul : Binary64 → Binary64 → Binary64
  | nan, _ => nan
  | _, nan => nan
  | infinity s, infinity t => infinity (s.mul t)
  | infinity s, finite t k => if k.val = 0 then nan else infinity (s.mul t)
  | finite s k, infinity t => if k.val = 0 then nan else infinity (s.mul t)
  | finite s j, finite t k => ofRatio (s.mul t) (units j * units k) unitsPerOne

/-- The exact value of a rank with a sign, in units. -/
def signedUnits (s : Sign) (k : Nat) : Int := s.apply (units k)

/-- The sign of an exact difference of zero: negative only for a
negative zero less a positive zero. -/
def zeroDifferenceSign : Sign → Sign → Sign
  | .minus, .plus => .minus
  | _, _ => .plus

/-- The rounded difference. -/
def sub : Binary64 → Binary64 → Binary64
  | nan, _ => nan
  | _, nan => nan
  | infinity s, infinity t => if s = t then nan else infinity s
  | infinity s, finite _ _ => infinity s
  | finite _ _, infinity t => infinity t.flip
  | finite s j, finite t k =>
      let d := signedUnits s j - signedUnits t k
      if d = 0 then zero (zeroDifferenceSign s t)
      else ofRatio (Sign.ofInt d) d.natAbs 1

end Quadratic.Binary64
