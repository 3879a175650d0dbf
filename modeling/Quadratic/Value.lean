/-
Quadratic.Value — the values that a log record can carry: plain data of
any depth, the objects of the calculator, and any other objects.

A value has two texts. `display` is the text for a reader: a string
stands for itself. `inspect` tells values of different kinds apart: a
string stands between quotes, and an object names its type and parts.
Inside a list or a dictionary, and wherever several values stand in a
row, the parts are inspected. These are the texts as they read if nothing
prevents them; what can do so is said in `Quadratic.Value.Text`.

A text is a row of characters, and a value is of some finite depth: texts
with half of a surrogate pair in them are not among the values here, nor
are values that contain themselves.
-/
import Quadratic.Coefficients
import Quadratic.Text.Quoted

namespace Quadratic

/-! ## 1. Values -/

/-- The kinds of errors that can be attached to a record. -/
inductive ErrorKind
  | value
  | type
  | token
  | endOfInput
deriving DecidableEq

namespace ErrorKind

/-- The name of a kind. -/
def name : ErrorKind → String
  | value => "ValueError"
  | type => "TypeError"
  | token => "CoefficientParseError"
  | endOfInput => "EndOfInputError"

/-- The name of a kind with the place where it is defined, unless it is
a general one. -/
def fullName : ErrorKind → String
  | value => "ValueError"
  | type => "TypeError"
  | token => "src.calculator.reader.CoefficientParseError"
  | endOfInput => "src.calculator.reader.EndOfInputError"

end ErrorKind

/-- An error that ends an operation of an object. -/
structure Raised where
  kind : String
  message : String
deriving DecidableEq

/-- An object of a class that is not described here. It is known by what
its operations give: two texts, or an error in the place of one, and what
the object counts as where a truth value or a number is asked for. An
exception also has the text that is shown of it with the calls that led
to it. -/
structure Object where
  typeName : String
  /-- The name of the class with the place where it is defined. -/
  fullTypeName : String
  display : Except Raised String
  inspect : Except Raised String
  isTrue : Bool
  /-- The integer that the object is cut off to. -/
  integer? : Option Int
  /-- The integer that the object is, exactly. -/
  index? : Option Int
  /-- The number of the format that the object is rounded to. -/
  real? : Option Binary64
  /-- The text of the object as an exception. -/
  trace? : Option String

/-- A value in a log record. -/
inductive Value
  | none
  | bool (b : Bool)
  | int (i : Int)
  | float (x : Binary64)
  | string (s : String)
  | list (items : List Value)
  | tuple (items : List Value)
  | dict (members : List (Value × Value))
  | coefficients (q : Coefficients)
  | rootCount (r : RootCount)
  | evaluation (e : Evaluation)
  | error (kind : ErrorKind) (args : List Value)
  | object (o : Object)

namespace Value

/-- The name of the type of a value. -/
def typeName : Value → String
  | none => "NoneType"
  | bool _ => "bool"
  | int _ => "int"
  | float _ => "float"
  | string _ => "str"
  | list _ => "list"
  | tuple _ => "tuple"
  | dict _ => "dict"
  | coefficients _ => "Coefficients"
  | rootCount _ => "RootCount"
  | evaluation _ => "DiscriminantResult"
  | error k _ => k.name
  | object o => o.typeName

/-- The name of the type of a value, with the place where it is defined,
unless it is a general one. -/
def fullTypeName : Value → String
  | coefficients _ => "src.core.domain.coefficients.Coefficients"
  | rootCount _ => "src.core.math.discriminant.RootCount"
  | evaluation _ => "src.core.math.discriminant.DiscriminantResult"
  | error k _ => k.fullName
  | object o => o.fullTypeName
  | v => v.typeName

/-- Whether a value counts as true: anything but nothing, zero, and what
has no parts. -/
def isTrue : Value → Bool
  | none => false
  | bool b => b
  | int i => i ≠ 0
  | float x => !x.numEq (Binary64.zero .plus)
  | string s => s ≠ ""
  | list xs | tuple xs => !xs.isEmpty
  | dict ms => !ms.isEmpty
  | coefficients _ | rootCount _ | evaluation _ | error _ _ => true
  | object o => o.isTrue

/-- The text that a value is. A root count is the text of its name. -/
def text? : Value → Option String
  | string s => some s
  | rootCount r => some r.name
  | _ => Option.none

/-- The parts that a value is a row of. A text is a row of characters, a
dictionary the row of its keys, and coefficients are a row of names with
their numbers. -/
def parts? : Value → Option (List Value)
  | string s => some (s.toList.map fun c => string (String.ofList [c]))
  | rootCount r => some (r.name.toList.map fun c => string (String.ofList [c]))
  | list vs | tuple vs => some vs
  | dict ms => some (ms.map fun m => m.1)
  | coefficients q =>
      some [tuple [string "a", float q.a], tuple [string "b", float q.b],
        tuple [string "c", float q.c]]
  | _ => Option.none

/-- The integer that a value is, exactly. -/
def index? : Value → Option Int
  | int i => some i
  | bool b => some (if b then 1 else 0)
  | object o => o.index?
  | _ => Option.none

/-- Whether a value is equal to a number, in whatever form it has it. -/
def isNumber (n : Nat) : Value → Bool
  | float x => x.numEq (Binary64.ofInt n)
  | int i => i = n
  | bool b => (if b then 1 else 0) = n
  | _ => false

/-! ## 2. Texts -/

/-- Parts in a row, with a comma and a space between them. -/
def row (parts : List (List Char)) : List Char := List.intercalate [',', ' '] parts

/-- Parts in a row between brackets. -/
def enclosed (left right : Char) (parts : List (List Char)) : List Char :=
  left :: row parts ++ [right]

/-- Parts of a tuple. A single part is followed by a comma. -/
def tupleChars : List (List Char) → List Char
  | [part] => '(' :: part ++ [',', ')']
  | parts => enclosed '(' ')' parts

/-- Coefficients as named parts, with a separator between them. -/
def coefficientParts (separator : List Char) (q : Coefficients) : List Char :=
  List.intercalate separator
    [['a', '='] ++ Style.diagnostic.chars q.a,
     ['b', '='] ++ Style.diagnostic.chars q.b,
     ['c', '='] ++ Style.diagnostic.chars q.c]

/-- Coefficients as an object. -/
def coefficientsInspect (q : Coefficients) : List Char :=
  "Coefficients(".toList ++ coefficientParts [',', ' '] q ++ [')']

/-- A root count as a member of its type. -/
def rootCountDisplay (r : RootCount) : List Char :=
  "RootCount.".toList ++ r.name.toList

/-- A root count as an object. -/
def rootCountInspect (r : RootCount) : List Char :=
  '<' :: rootCountDisplay r ++ [':', ' '] ++ Text.quotedChars r.name.toList ++ ['>']

/-- An evaluation as an object. -/
def evaluationInspect (e : Evaluation) : List Char :=
  "DiscriminantResult(coefficients=".toList ++ coefficientsInspect e.coefficients ++
  ", discriminant=".toList ++ Style.diagnostic.chars e.discriminant ++
  ", root_count=".toList ++ rootCountInspect e.rootCount ++
  ", details=".toList ++ Text.quotedChars e.details.toList ++ [')']

mutual

/-- The text of a value that shows what kind of value it is. -/
def inspectChars : Value → List Char
  | none => "None".toList
  | bool true => "True".toList
  | bool false => "False".toList
  | int i => Decimal.intChars i
  | float x => Style.diagnostic.chars x
  | string s => Text.quotedChars s.toList
  | list xs => enclosed '[' ']' (inspectItems xs)
  | tuple xs => tupleChars (inspectItems xs)
  | dict ms => enclosed '\x7b' '\x7d' (inspectMembers ms)
  | coefficients q => coefficientsInspect q
  | rootCount r => rootCountInspect r
  | evaluation e => evaluationInspect e
  | error k args => k.name.toList ++ enclosed '(' ')' (inspectItems args)
  | object o => (o.inspect.toOption.getD "").toList

/-- The texts of values in a row. -/
def inspectItems : List Value → List (List Char)
  | [] => []
  | v :: vs => inspectChars v :: inspectItems vs

/-- The texts of the members of a dictionary. -/
def inspectMembers : List (Value × Value) → List (List Char)
  | [] => []
  | (k, v) :: ms => (inspectChars k ++ ':' :: ' ' :: inspectChars v) :: inspectMembers ms

end

/-- The text of a value for a reader. The text of an error is that of
what it was raised with. -/
def displayChars : Value → List Char
  | string s => s.toList
  | coefficients q => coefficientParts [' '] q
  | rootCount r => rootCountDisplay r
  | error _ [] => []
  | error _ [v] => displayChars v
  | error _ vs => tupleChars (inspectItems vs)
  | object o => (o.display.toOption.getD "").toList
  | v => inspectChars v

/-- The text of a value that shows what kind of value it is. -/
def inspect (v : Value) : String := String.ofList v.inspectChars

/-- The text of a value for a reader. -/
def display (v : Value) : String := String.ofList v.displayChars

/-! ## 3. Root counts -/

/-- The root count that a value is or names. -/
def rootCount? (v : Value) : Option RootCount := v.text?.bind RootCount.ofName?

/-- What is said of a value that is no root count. -/
def notARootCount (v : Value) : String := v.inspect ++ " is not a valid RootCount"

/-! ## 4. Dictionaries -/

/-- Assignment in a dictionary: a key that is there keeps its place, a
new one comes last. -/
def put {α : Type} (key : String) (x : α) : List (String × α) → List (String × α)
  | [] => [(key, x)]
  | (k, y) :: ms => if k = key then (k, x) :: ms else (k, y) :: put key x ms

/-- A row of assignments, from left to right. -/
def putAll {α : Type} (assignments members : List (String × α)) : List (String × α) :=
  assignments.foldl (fun ms m => put m.1 m.2 ms) members

/-- The value of a key. -/
def lookup? {α : Type} (key : String) (ms : List (String × α)) : Option α :=
  (ms.find? fun m => m.1 = key).map (·.2)

end Value

end Quadratic
