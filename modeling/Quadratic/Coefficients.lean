/-
Quadratic.Coefficients — the coefficients of `ax² + bx + c = 0`, their
discriminant, and what its sign says about the real roots.

The discriminant is computed in the order `(b · b) - ((4 · a) · c)`, with
one rounding for each of the four operations. The coefficients may be
any numbers of the format, NaN and the infinities included; a
discriminant that is NaN counts as one without real roots.
-/
import Quadratic.Decimal.Style

namespace Quadratic

/-! ## 1. Coefficients -/

/-- The coefficients of a quadratic equation. -/
structure Coefficients where
  a : Binary64
  b : Binary64
  c : Binary64
deriving DecidableEq

namespace Coefficients

/-- Numerical equality in every place. -/
def numEq (p q : Coefficients) : Bool :=
  p.a.numEq q.a && p.b.numEq q.b && p.c.numEq q.c

/-- The left side of the equation. -/
def equation (q : Coefficients) : String :=
  Style.report.text q.a ++ "x² + " ++ Style.report.text q.b ++ "x + " ++
    Style.report.text q.c

/-! ## 2. Discriminant -/

/-- The number four. -/
def four : Binary64 := Binary64.ofInt 4

/-- The discriminant, rounded after each operation. -/
def discriminant (q : Coefficients) : Binary64 :=
  (q.b.mul q.b).sub ((four.mul q.a).mul q.c)

end Coefficients

/-! ## 3. Root counts -/

/-- How many real roots an equation has. -/
inductive RootCount
  | two
  | one
  | none
deriving DecidableEq

namespace RootCount

/-- The count that a discriminant stands for. -/
def ofDiscriminant (d : Binary64) : RootCount :=
  if (Binary64.zero .plus).lt d then two
  else if d.numEq (Binary64.zero .plus) then one
  else none

/-- The name of a count. -/
def name : RootCount → String
  | two => "TWO_REAL_ROOTS"
  | one => "ONE_REAL_ROOT"
  | none => "NO_REAL_ROOTS"

/-- What the report says about a count. -/
def message : RootCount → String
  | two => "Two real roots"
  | one => "One real root"
  | none => "No real roots"

/-- The count with a given name. -/
def ofName? (s : String) : Option RootCount :=
  [two, one, none].find? fun r => r.name = s

end RootCount

/-! ## 4. Evaluations -/

/-- An equation with its discriminant and its root count. -/
structure Evaluation where
  coefficients : Coefficients
  discriminant : Binary64
  rootCount : RootCount
deriving DecidableEq

namespace Evaluation

/-- The evaluation of an equation. -/
def of (q : Coefficients) : Evaluation where
  coefficients := q
  discriminant := q.discriminant
  rootCount := RootCount.ofDiscriminant q.discriminant

/-- The evaluation in one line. -/
def details (e : Evaluation) : String :=
  "D=" ++ Style.report.text e.discriminant ++ " for " ++ e.coefficients.equation ++
    ": " ++ e.rootCount.name

/-- The line before the results. -/
def resultsHeader : String := "=== Results ==="

/-- The report: an empty line, the header, the equation, the
discriminant, and the root count in words. -/
def report (e : Evaluation) : String :=
  "\n" ++ resultsHeader ++ "\n" ++
  "Equation: " ++ e.coefficients.equation ++ "\n" ++
  "Discriminant = " ++ Style.report.text e.discriminant ++ "\n" ++
  e.rootCount.message ++ "\n"

end Evaluation

end Quadratic
