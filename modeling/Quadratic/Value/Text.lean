/-
Quadratic.Value.Text — the texts of values, and what can prevent them.

Three things can: an integer with too many digits, an object that raises
an error where its text is asked for, and a value that is nested too
deeply. A text is put together by calls inside each other, one for each
value that it shows, and only so many of them can be open at once
(`Stack`). The first thing that goes wrong, from left to right, is the
error of the whole.
-/
import Quadratic.Value

namespace Quadratic

/-! ## 1. Errors -/

/-- Why a value has no text. -/
inductive TextError
  | tooManyDigits
  | tooDeep (doing : String)
  | raised (error : Raised)
deriving DecidableEq

namespace TextError

/-- The name of the kind of an error. -/
def kind : TextError → String
  | tooManyDigits => "ValueError"
  | tooDeep _ => "RecursionError"
  | raised e => e.kind

/-- The message of an error. -/
def message : TextError → String
  | tooManyDigits =>
      "Exceeds the limit (" ++ toString Decimal.mostWritten ++ " digits) for integer string " ++
        "conversion; use sys.set_int_max_str_digits() to increase the limit"
  | tooDeep doing => "maximum recursion depth exceeded" ++ doing
  | raised e => e.message

end TextError

/-! ## 2. Depth -/

/-- How many more calls fit inside each other at the four places where a
record asks for texts, and how many of them the text of an object takes
that is put together by other programs. -/
structure Stack where
  template : Nat
  arguments : Nat
  exception : Nat
  members : Nat
  levels : Value → Nat

/-- A stack without room for anything that takes a call. -/
def Stack.least : Stack := ⟨0, 0, 0, 0, fun _ => 0⟩

namespace Value

/-- What prevents a text that is put together by one more call. -/
def entering (doing : String) (room : Nat) (inner : Nat → Option TextError) : Option TextError :=
  match room with
  | 0 => some (.tooDeep doing)
  | room + 1 => inner room

/-- What is being done where a value is inspected. -/
def inspecting : String := " while getting the repr of an object"

/-- What is being done where a value is displayed. -/
def displaying : String := " while getting the str of an object"

/-! ## 3. Texts -/

/-- What prevents an integer from being written. -/
def digitsFault? (i : Int) : Option TextError :=
  if Decimal.IsShort i then Option.none else some .tooManyDigits

/-- What an object raises in the place of a text. -/
def raisedFault? : Except Raised String → Option TextError
  | .ok _ => Option.none
  | .error e => some (.raised e)

variable (levels : Value → Nat)

/-- What prevents the text of an object, apart from what it raises. -/
def levelsFault? (room : Nat) (v : Value) : Option TextError :=
  if levels v ≤ room then Option.none else some (.tooDeep "")

mutual

/-- What prevents the text of a value that shows what kind of value it is. -/
def inspectFault? (room : Nat) : Value → Option TextError
  | none | bool _ | float _ | string _ => entering inspecting room fun _ => Option.none
  | int i => entering inspecting room fun _ => digitsFault? i
  | list xs | tuple xs => entering inspecting room fun room => itemsFault? room xs
  | dict ms => entering inspecting room fun room => membersFault? room ms
  | error _ [v] => entering inspecting room fun room => inspectFault? room v
  | error _ vs =>
      entering inspecting room fun room => entering inspecting room fun room => itemsFault? room vs
  | coefficients q => levelsFault? levels room (coefficients q)
  | rootCount r => levelsFault? levels room (rootCount r)
  | evaluation e => levelsFault? levels room (evaluation e)
  | object o => (levelsFault? levels room (object o)).or (raisedFault? o.inspect)

/-- What prevents the texts of values in a row. -/
def itemsFault? (room : Nat) : List Value → Option TextError
  | [] => Option.none
  | v :: vs => (inspectFault? room v).or (itemsFault? room vs)

/-- What prevents the texts of the members of a dictionary. -/
def membersFault? (room : Nat) : List (Value × Value) → Option TextError
  | [] => Option.none
  | (k, v) :: ms =>
      ((inspectFault? room k).or (inspectFault? room v)).or (membersFault? room ms)

end

/-- What prevents the text of a value for a reader. A string is that text
already. -/
def displayFault? (room : Nat) : Value → Option TextError
  | string _ => Option.none
  | none | bool _ | float _ => entering displaying room fun _ => Option.none
  | int i => entering displaying room fun _ => digitsFault? i
  | list xs | tuple xs => entering displaying room fun room => itemsFault? levels room xs
  | dict ms => entering displaying room fun room => membersFault? levels room ms
  | error _ [] => entering displaying room fun _ => Option.none
  | error _ [v] => entering displaying room fun room => displayFault? room v
  | error _ vs =>
      entering displaying room fun room =>
        entering displaying room fun room => itemsFault? levels room vs
  | coefficients q => levelsFault? levels room (coefficients q)
  | rootCount r => levelsFault? levels room (rootCount r)
  | evaluation e => levelsFault? levels room (evaluation e)
  | object o => (levelsFault? levels room (object o)).or (raisedFault? o.display)

/-- The text of a value that shows what kind of value it is, unless
something prevents it. -/
def inspected (room : Nat) (v : Value) : Except TextError String :=
  match inspectFault? levels room v with
  | some e => .error e
  | Option.none => .ok v.inspect

/-- The text of a value for a reader, unless something prevents it. -/
def displayed (room : Nat) (v : Value) : Except TextError String :=
  match displayFault? levels room v with
  | some e => .error e
  | Option.none => .ok v.display

end Value

end Quadratic
