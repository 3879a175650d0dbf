/-
Quadratic.Decimal.Rounded — decimals of a given length: a magnitude of
the format rounded to so many places after the point, or to so many
significant digits.

The exact value is rounded to the nearest decimal of that length, and of
two nearest ones to the one with an even last digit.
-/
import Quadratic.Binary64.Basic
import Quadratic.Decimal.Shortest

-- A power is the one of the core library, whatever other instances are
-- imported.
attribute [local instance (high)] instPowNat

namespace Quadratic.Decimal

/-- The natural number nearest to `num / den`; of two, the even one. -/
def roundDiv (num den : Nat) : Nat :=
  let q := num / den
  let excess := 2 * (num % den)
  if excess < den ∨ (excess = den ∧ q % 2 = 0) then q else q + 1

/-- The magnitude of rank `k` rounded to `places` places after the point,
as a number of units of the last place. -/
def roundedTo (places k : Nat) : Nat :=
  roundDiv (Binary64.units k * 10 ^ places) Binary64.unitsPerOne

/-- The exponent of ten of the first digit of a magnitude above zero,
found from its integer part after a scaling by `10 ^ 400`, which every
positive magnitude survives. -/
def leadingExponent (k : Nat) : Int :=
  let scaledUp := Binary64.units k * 10 ^ (400 : Nat) / Binary64.unitsPerOne
  (Nat.toDigits 10 scaledUp).length - 401

/-- The magnitude of rank `k` rounded to `n` significant digits, for `k`
and `n` above zero: the digits as one number, and the exponent of ten of
the first one. -/
def significant (n k : Nat) : Nat × Int :=
  let e := leadingExponent k
  let shift := e - n + 1
  let r :=
    if 0 ≤ shift then
      roundDiv (Binary64.units k) (Binary64.unitsPerOne * 10 ^ shift.natAbs)
    else roundDiv (Binary64.units k * 10 ^ shift.natAbs) Binary64.unitsPerOne
  if r = 10 ^ n then (10 ^ (n - 1), e + 1) else (r, e)

/-- The integer part of the magnitude of rank `k`. -/
def integerPart (k : Nat) : Nat := Binary64.units k / Binary64.unitsPerOne

end Quadratic.Decimal
