/-
Quadratic.Value.Json — values in a JSON line.

Plain data stands for itself. A root count becomes the string of its
name, and what JSON has no form for becomes the string of its display
text, at any depth. The keys of a dictionary become names: a string is a
name already, a constant or a number is one as JSON writes it, and no
other value can be a key. Two keys may have one name, and then both
members are written.

A list, a tuple or a dictionary is one level deeper than what it stands
in, and only so many levels fit inside each other. An integer must not
have too many digits.
-/
import Quadratic.Json
import Quadratic.Value.Text

namespace Quadratic

/-- Why a value has no form in JSON. -/
inductive JsonError
  | text (error : TextError)
  | notAName (typeName : String)
deriving DecidableEq

namespace JsonError

/-- The name of the kind of an error. -/
def kind : JsonError → String
  | text e => e.kind
  | notAName _ => "TypeError"

/-- The message of an error. -/
def message : JsonError → String
  | text e => e.message
  | notAName t => "keys must be str, int, float, bool or None, not " ++ t

end JsonError

namespace Value

/-- What is being done where a value is written as JSON. -/
def encoding : String := " while encoding a JSON object"

/-- What is being done where an object is asked for its text. -/
def calling : String := " while calling a Python object"

/-- An integer in JSON. -/
def intToJson (i : Int) : Except JsonError Json :=
  if Decimal.IsShort i then .ok (.int i) else .error (.text .tooManyDigits)

/-- The name that a key becomes. -/
def toName : Value → Except JsonError String
  | string s => .ok s
  | rootCount r => .ok r.name
  | none => .ok Json.null.text
  | bool b => .ok (Json.bool b).text
  | int i => (intToJson i).map Json.text
  | float x => .ok (Json.real x).text
  | v => .error (.notAName v.typeName)

/-- One level more, if there is room for it. -/
def nested {α : Type} (doing : String) (room : Nat) (inner : Nat → Except JsonError α) :
    Except JsonError α :=
  match room with
  | 0 => .error (.text (.tooDeep doing))
  | room + 1 => inner room

variable (levels : Value → Nat)

/-- An object in JSON. To ask for its text takes a call. -/
def objectToJson (room : Nat) (v : Value) : Except JsonError Json :=
  nested calling room fun room => ((v.displayed levels room).mapError .text).map .string

mutual

/-- The value in a JSON line. -/
def toJson (room : Nat) : Value → Except JsonError Json
  | none => .ok .null
  | bool b => .ok (.bool b)
  | int i => intToJson i
  | float x => .ok (.real x)
  | string s => .ok (.string s)
  | rootCount r => .ok (.string r.name)
  | list xs | tuple xs => nested encoding room fun room => (toJsonItems room xs).map .array
  | dict ms => nested encoding room fun room => (toJsonMembers room ms).map .object
  | coefficients q => objectToJson levels room (coefficients q)
  | evaluation e => objectToJson levels room (evaluation e)
  | error k args => objectToJson levels room (error k args)
  | object o => objectToJson levels room (object o)

/-- The elements of a list or tuple in JSON. -/
def toJsonItems (room : Nat) : List Value → Except JsonError (List Json)
  | [] => .ok []
  | v :: vs => do
      let j ← toJson room v
      return j :: (← toJsonItems room vs)

/-- The members of a dictionary in JSON. -/
def toJsonMembers (room : Nat) : List (Value × Value) → Except JsonError (List (String × Json))
  | [] => .ok []
  | (k, v) :: ms => do
      let name ← k.toName
      let j ← toJson room v
      return (name, j) :: (← toJsonMembers room ms)

end

end Value

end Quadratic
