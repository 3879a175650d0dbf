/-
Quadratic.Coefficients.Assign — assignment to coefficients.

Coefficients do not change: assignment to any public name is refused,
whether or not it is the name of a coefficient. A name that begins with
an underscore is private and is treated as with any other object, so the
attributes as a whole can be replaced. What is read afterwards are the
attributes of the three names, which need not be there any more.
-/
import Quadratic.Attributes
import Quadratic.Coefficients.Fields

namespace Quadratic.Coefficients

/-- The name of the type. -/
def typeName : String := "Coefficients"

/-- The coefficients as attributes. -/
def attributes (q : Coefficients) : Attributes :=
  [("a", .float q.a), ("b", .float q.b), ("c", .float q.c)]

/-! ## 1. Writing -/

/-- Why an assignment is refused. -/
inductive AssignError
  | field (problem : FieldProblem)
  | access (error : AttributeError)
deriving DecidableEq

/-- Whether a name is private. -/
def isPrivate (name : String) : Bool := name.toList.head? = some '_'

/-- The private names whose values are computed. -/
def computedNames : List String := ["__fields__", "__fields_set__"]

/-- The attributes after an assignment. -/
def assign (q : Coefficients) (name : String) (v : Value) : Except AssignError Attributes :=
  if ¬ isPrivate name then .error (.field ⟨name, .frozen⟩)
  else if name ∈ computedNames then .error (.access (.computed typeName name))
  else (q.attributes.assign typeName name v).mapError .access

/-! ## 2. Reading -/

/-- Why attributes are no coefficients. -/
inductive ReadError
  | access (error : AttributeError)
  | notReal (typeName : String)
  | tooLarge
deriving DecidableEq

/-- The name of the kind of an error. -/
def ReadError.kind : ReadError → String
  | access e => e.kind
  | notReal _ => "TypeError"
  | tooLarge => "OverflowError"

/-- The message of an error. -/
def ReadError.message : ReadError → String
  | access e => e.message
  | notReal t => "must be real number, not " ++ t
  | tooLarge => "int too large to convert to float"

/-- The number that an attribute stands for. -/
def realOf : Value → Except ReadError Binary64
  | .float x => .ok x
  | .bool b => .ok (Binary64.ofInt (if b then 1 else 0))
  | .int i =>
      let x := Binary64.ofInt i
      if x.isFinite then .ok x else .error .tooLarge
  | v => .error (.notReal v.typeName)

/-- The coefficients among some attributes. -/
def ofAttributes (as : Attributes) : Except ReadError Coefficients := do
  let a ← (as.get typeName "a").mapError .access
  let b ← (as.get typeName "b").mapError .access
  let c ← (as.get typeName "c").mapError .access
  return ⟨← realOf a, ← realOf b, ← realOf c⟩

end Quadratic.Coefficients
