/-
Quadratic.Coefficients.Fields — coefficients from named values of any
kind.

A number is taken as it is, a truth value counts as one or zero, and an
integer is rounded to the format unless it is too large. A string is
read as a decimal literal in ASCII digits, or as one of the names for
NaN and infinity; here a value too large becomes an infinity. The string
may have white space at its ends, or else single underscores anywhere
inside, but not both. Everything else is refused. Names other than those
of the three coefficients are ignored, and all problems are reported, in
the order of the coefficients.
-/
import Quadratic.Decimal.Literal
import Quadratic.Text.Space
import Quadratic.Value

namespace Quadratic.Coefficients

/-! ## 1. Numbers from values -/

/-- What is wrong with a field. -/
inductive FieldError
  | missing
  | notANumber
  | unreadable
  | frozen
deriving DecidableEq

namespace FieldError

/-- The name of an error. -/
def code : FieldError → String
  | missing => "missing"
  | notANumber => "float_type"
  | unreadable => "float_parsing"
  | frozen => "frozen_instance"

/-- The message of an error. -/
def message : FieldError → String
  | missing => "Field required"
  | notANumber => "Input should be a valid number"
  | unreadable => "Input should be a valid number, unable to parse string as a number"
  | frozen => "Instance is frozen"

end FieldError

/-- The numbers with names. -/
def named? (cs : List Char) : Option Binary64 :=
  let (s, cs) := Decimal.Literal.takeSign cs
  let name := String.ofList (cs.map Char.toLower)
  if name = "inf" ∨ name = "infinity" then some (.infinity s)
  else if name = "nan" then some .nan
  else none

/-- The number that a text spells as it stands. -/
def plain? (cs : List Char) : Option Binary64 :=
  match Decimal.Literal.scan Decimal.asciiDigit? cs with
  | some l => some l.toBinary64
  | none => named? cs

/-- Whether two underscores stand together. -/
def hasDoubleSeparator : List Char → Bool
  | '_' :: '_' :: _ => true
  | _ :: cs => hasDoubleSeparator cs
  | [] => false

/-- A text without its underscores, if every one of them stands alone
between two other characters. -/
def withoutSeparators? (cs : List Char) : Option (List Char) :=
  if cs.head? = some '_' ∨ cs.getLast? = some '_' ∨ hasDoubleSeparator cs then none
  else some (cs.filter (· ≠ '_'))

/-- The number that a string spells: with white space at its ends, or
else with underscores inside. -/
def ofString? (s : String) : Option Binary64 :=
  match plain? (Text.trim Text.isBlank s.toList) with
  | some x => some x
  | none => (withoutSeparators? s.toList).bind plain?

/-- The number that a value stands for. -/
def numberOf : Value → Except FieldError Binary64
  | .float x => .ok x
  | .bool b => .ok (Binary64.ofInt (if b then 1 else 0))
  | .int i =>
      let x := Binary64.ofInt i
      if x.isFinite then .ok x else .error .notANumber
  | .string s => (ofString? s).elim (.error .unreadable) .ok
  | .rootCount r => (ofString? r.name).elim (.error .unreadable) .ok
  | _ => .error .notANumber

/-! ## 2. Coefficients from fields -/

/-- A problem with the field of a name. -/
structure FieldProblem where
  field : String
  error : FieldError
deriving DecidableEq

/-- The number in the field of a name. -/
def field (name : String) (fields : List (String × Value)) : Except FieldProblem Binary64 :=
  match Value.lookup? name fields with
  | none => .error ⟨name, .missing⟩
  | some v => (numberOf v).mapError fun e => ⟨name, e⟩

/-- The problem of a field, if it has one. -/
def problemOf (r : Except FieldProblem Binary64) : List FieldProblem :=
  match r with
  | .ok _ => []
  | .error p => [p]

/-- The coefficients in a list of fields, or all that is wrong with them. -/
def ofFields (fields : List (String × Value)) : Except (List FieldProblem) Coefficients :=
  match field "a" fields, field "b" fields, field "c" fields with
  | .ok a, .ok b, .ok c => .ok ⟨a, b, c⟩
  | a, b, c => .error (problemOf a ++ problemOf b ++ problemOf c)

end Quadratic.Coefficients
