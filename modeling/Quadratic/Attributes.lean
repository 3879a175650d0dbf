/-
Quadratic.Attributes — the attributes of an object: values with names,
in the order in which the names were first assigned.

Three names do not stand for a value of their own. `__dict__` stands for
all attributes together, `__class__` for the class of the object, which
no value can replace, and `__weakref__` cannot be written at all. Of a
dictionary in the place of all attributes, the members count whose keys
are texts: no other key is the name of an attribute.
-/
import Quadratic.Value

namespace Quadratic

/-- Values with names. -/
abbrev Attributes := List (String × Value)

/-- Why an attribute cannot be read or written. The owner is the type of
the object. -/
inductive AttributeError
  | missing (owner name : String)
  | readOnly (owner name : String)
  | computed (owner name : String)
  | notADictionary (typeName : String)
  | notAClass (typeName : String)
deriving DecidableEq

namespace AttributeError

/-- The name of the kind of an error. -/
def kind : AttributeError → String
  | missing _ _ | readOnly _ _ | computed _ _ => "AttributeError"
  | notADictionary _ | notAClass _ => "TypeError"

/-- The message of an error. -/
def message : AttributeError → String
  | missing owner name => "'" ++ owner ++ "' object has no attribute " ++ Text.quoted name
  | readOnly owner name =>
      "attribute " ++ Text.quoted name ++ " of '" ++ owner ++ "' objects is not writable"
  | computed owner name =>
      "property " ++ Text.quoted name ++ " of '" ++ owner ++ "' object has no setter"
  | notADictionary t => "__dict__ must be set to a dictionary, not a '" ++ t ++ "'"
  | notAClass t => "__class__ must be set to a class, not '" ++ t ++ "' object"

end AttributeError

namespace Attributes

/-- The attribute of a name. -/
def get (owner : String) (as : Attributes) (name : String) : Except AttributeError Value :=
  match Value.lookup? name as with
  | some v => .ok v
  | none => .error (.missing owner name)

/-- The attributes after an assignment. -/
def assign (owner : String) (as : Attributes) (name : String) (v : Value) :
    Except AttributeError Attributes :=
  if name = "__dict__" then
    match v with
    | .dict ms => .ok (ms.filterMap fun m => m.1.text?.map fun name => (name, m.2))
    | v => .error (.notADictionary v.typeName)
  else if name = "__class__" then .error (.notAClass v.typeName)
  else if name = "__weakref__" then .error (.readOnly owner name)
  else .ok (Value.put name v as)

end Attributes

end Quadratic
