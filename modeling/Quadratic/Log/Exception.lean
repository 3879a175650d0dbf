/-
Quadratic.Log.Exception — the exception of a log record, and its text.

An error that was never raised is shown by its kind and its own text. Any
other exception is given by the text that is shown of it, which begins
with the calls and the exceptions that led to it.

A record has its exception as a row of three: a type, the error itself,
and the calls that led to it. `traceText` accepts any value in the place
of the row, because a record can be given any. It looks at the third part
before the second, and never at the first.
-/
import Quadratic.Attributes
import Quadratic.Value.Text

namespace Quadratic.Log

/-! ## 1. Exceptions -/

/-- An exception: an error with what it was made from, or any other one
with the text that is shown of it. -/
inductive Exception
  | unraised (kind : ErrorKind) (args : List Value)
  | traced (text : String)

namespace Exception

/-- An exception of which only the text is known that is shown of it. -/
def tracedObject (text : String) : Object where
  typeName := "Exception"
  fullTypeName := "Exception"
  display := .ok ""
  inspect := .ok "Exception()"
  isTrue := true
  integer? := none
  index? := none
  real? := none
  trace? := some text

/-- The exception as an attribute of a record. The calls that led to it are
part of its text already. -/
def toValue : Exception → Value
  | unraised kind args => .tuple [.none, .error kind args, .none]
  | traced text => .tuple [.none, .object (tracedObject text), .none]

/-- What is shown of an error whose own text something prevents. -/
def noDetail : String := "<exception str() failed>"

/-- The text of an exception. The kind of an error stands alone if there is
nothing to say. -/
def text (s : Stack) : Exception → String
  | unraised kind args =>
      let detail :=
        match (Value.error kind args).displayed s.levels s.exception with
        | .ok detail => detail
        | .error _ => noDetail
      if detail = "" then kind.fullName else kind.fullName ++ ": " ++ detail
  | traced text => text

end Exception

/-! ## 2. Rows of three -/

/-- Why a value has no text as an exception. -/
inductive TraceError
  | notIndexable (typeName : String)
  | outOfRange (what : String)
  | keyMissing (key : Nat)
  | access (error : AttributeError)
deriving DecidableEq

namespace TraceError

/-- The name of the kind of an error. -/
def kind : TraceError → String
  | notIndexable _ => "TypeError"
  | outOfRange _ => "IndexError"
  | keyMissing _ => "KeyError"
  | access e => e.kind

/-- The message of an error. -/
def message : TraceError → String
  | notIndexable t => "'" ++ t ++ "' object is not subscriptable"
  | outOfRange what => what ++ " index out of range"
  | keyMissing k => toString k
  | access e => e.message

end TraceError

/-- The part of a row at a place. -/
def partOf (what : String) (row : List Value) (i : Nat) : Except TraceError Value :=
  match row[i]? with
  | some v => .ok v
  | none => .error (.outOfRange what)

/-- The part of a value at a place. The parts of a text are its
characters; a dictionary has keys instead of places, and any key will do
that is equal to the number. -/
def part (v : Value) (i : Nat) : Except TraceError Value :=
  match v with
  | .list vs => partOf "list" vs i
  | .tuple vs => partOf "tuple" vs i
  | .string s => partOf "string" (s.toList.map fun c => .string c.toString) i
  | .rootCount r => partOf "string" (r.name.toList.map fun c => .string c.toString) i
  | .dict ms =>
      match ms.find? fun m => m.1.isNumber i with
      | some m => .ok m.2
      | none => .error (.keyMissing i)
  | v => .error (.notIndexable v.typeName)

/-- The text of a value as an exception. -/
def traceText (s : Stack) (v : Value) : Except TraceError String := do
  match ← part v 2 with
  | .none =>
      match ← part v 1 with
      | .none => return "NoneType: None"
      | .error kind args => return Exception.text s (.unraised kind args)
      | .object o =>
          match o.trace? with
          | some text => return text
          | none => throw (.access (.missing o.typeName "__suppress_context__"))
      | e => throw (.access (.missing e.typeName "__suppress_context__"))
  | calls => throw (.access (.missing calls.typeName "tb_frame"))

end Quadratic.Log
