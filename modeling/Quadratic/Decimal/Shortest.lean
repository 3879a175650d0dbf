/-
Quadratic.Decimal.Shortest — the shortest decimal that reads back as a
given positive number of the format, and of those the closest to it.

The decimals that round to a number form an interval around it, whose
ends lie halfway to the two neighbours and belong to it exactly if the
rank is even. `shortest` looks for the coarsest power of ten with a
multiple in that interval. Two decimals in one interval differ by a
factor of at most three, so the coarsest grid is also the one with the
fewest digits.

Everything is counted in units of 10⁻¹⁰⁷⁴. A unit of the format is a
whole number of those, so all of the search is in natural numbers; and
the finest grid holds the number itself, so the search always ends with
a decimal that reads back.
-/
import Quadratic.Binary64.Basic

-- A power is the one of the core library, whatever other instances are
-- imported.
attribute [local instance (high)] instPowNat

namespace Quadratic

/-- The decimal `coefficient · 10 ^ exponent`. -/
structure Decimal where
  coefficient : Nat
  exponent : Int
deriving DecidableEq

namespace Decimal

/-- The digits of the coefficient. -/
def digits (d : Decimal) : List Char := Nat.toDigits 10 d.coefficient

/-- Where the point is: the value is `0.DIGITS · 10 ^ point`. -/
def point (d : Decimal) : Int := d.digits.length + d.exponent

/-! ## 1. The interval of a number -/

/-- The magnitude of rank `k`, in units of 10⁻¹⁰⁷⁴. -/
def scaled (k : Nat) : Nat := Binary64.units k * 5 ^ (1074 : Nat)

/-- The number of units of 10⁻¹⁰⁷⁴ in one unit of the format. -/
def unitRatio : Nat := 5 ^ (1074 : Nat)

theorem scaled_eq (k : Nat) : scaled k = Binary64.units k * unitRatio := by
  rw [scaled, unitRatio]

/-- The decimals that round to a number. The ends are doubled, because
they lie halfway between two magnitudes. -/
structure Interval where
  value : Nat
  twiceLow : Nat
  twiceHigh : Nat
  closed : Bool

/-- The interval of the magnitude of rank `k`, for `k` above zero. -/
def Interval.ofRank (k : Nat) : Interval where
  value := scaled k
  twiceLow := scaled (k - 1) + scaled k
  twiceHigh := scaled k + scaled (k + 1)
  closed := k % 2 = 0

/-- Whether `n` units of 10⁻¹⁰⁷⁴ are in the interval. -/
def Interval.contains (i : Interval) (n : Nat) : Bool :=
  if i.closed then i.twiceLow ≤ 2 * n ∧ 2 * n ≤ i.twiceHigh
  else i.twiceLow < 2 * n ∧ 2 * n < i.twiceHigh

/-! ## 2. Grids -/

/-- The multiple of `step` in the interval that is closest to its value,
as a factor of `step`; of two equally close ones the even one. Only the
two neighbours of the value can be the closest. -/
def Interval.multiple? (i : Interval) (step : Nat) : Option Nat :=
  let c := i.value / step
  let excess := 2 * (i.value % step)
  match i.contains (c * step), i.contains ((c + 1) * step) with
  | true, true =>
      if excess < step ∨ (excess = step ∧ c % 2 = 0) then some c else some (c + 1)
  | true, false => some c
  | false, true => some (c + 1)
  | false, false => none

/-- The first grid with a multiple in the interval, from `10 ^ g` units
down to a single one. -/
def Interval.coarsest (i : Interval) : Nat → Decimal
  | 0 => ⟨i.value, -1074⟩
  | g + 1 =>
      match i.multiple? (10 ^ (g + 1)) with
      | some c => ⟨c, (g + 1 : Nat) - 1074⟩
      | none => i.coarsest g

/-- The shortest decimal that rounds to the magnitude of rank `k`, and of
those the closest to it. The search starts at a power of ten above the
magnitude, since `10 > 2 ^ 3`. -/
def shortest (k : Nat) : Decimal :=
  let i := Interval.ofRank k
  i.coarsest (i.value.log2 / 3 + 1)

end Decimal

end Quadratic
