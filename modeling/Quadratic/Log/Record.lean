/-
Quadratic.Log.Record — a log record, and the two lines that it can be
written as.

A record is an object with attributes. It is made from an `Entry`, and
any attribute can be assigned afterwards, so a line reads each value that
it needs from the attributes and fails if it is missing or unsuitable.

* `textLine` joins time, logger, severity and message.
* `jsonLine` is a JSON object: the seven base members, the exception if
  the record has one, and then whatever was assigned to the record in
  addition. An added member whose key is already there takes its place;
  `putAll` keeps the keys distinct and in the order of first assignment.

The attributes that every record has never become members under their
own names. There is no line if a value of the object has no form in JSON.
-/
import Quadratic.Log.Exception
import Quadratic.Log.Level
import Quadratic.Log.Template
import Quadratic.Log.Time
import Quadratic.Value.Json

namespace Quadratic.Log

/-! ## 1. Records -/

/-- What a record is made from. Its severity has a name, or there would be
no record. -/
structure Entry where
  logger : String
  level : Int
  short : Decimal.IsShort level
  module : String
  function : Option String
  line : Int
  template : Value
  arguments : List Value
  time : Time
  exception : Option Exception
  stack : Stack

/-- A log record, and the room that there is for its texts. -/
structure Record where
  attributes : Attributes
  stack : Stack

/-- The part of a file path that names a module: the last component up to
its last point, unless only points come before that one. -/
def moduleName (path : String) : String :=
  let file := (path.toList.reverse.takeWhile (· ≠ '/')).reverse
  match file.reverse.dropWhile (· ≠ '.') with
  | '.' :: stem => if stem.all (· = '.') then String.ofList file else String.ofList stem.reverse
  | _ => String.ofList file

/-- Arguments as an attribute. A dictionary that stands alone, and is not
empty, takes the place of the tuple. -/
def argumentsValue : List Value → Value
  | [.dict (m :: ms)] => .dict (m :: ms)
  | vs => .tuple vs

/-- The names of the attributes that every record has. -/
def ownAttributes : List String :=
  ["name", "msg", "args", "levelname", "levelno", "pathname", "filename", "module",
   "exc_info", "exc_text", "stack_info", "lineno", "funcName", "created", "msecs",
   "relativeCreated", "thread", "threadName", "processName", "process", "message",
   "asctime"]

/-- The record of an entry. Of the attributes that every record has, these
are the ones that a line shows. -/
def Entry.record (e : Entry) : Record where
  attributes :=
    [("name", .string e.logger),
     ("msg", e.template),
     ("args", argumentsValue e.arguments),
     ("levelname", .string (levelText e.level)),
     ("module", .string e.module),
     ("exc_info", (e.exception.map Exception.toValue).getD .none),
     ("lineno", .int e.line),
     ("funcName", (e.function.map Value.string).getD .none),
     ("created", .int e.time.seconds),
     ("msecs", .int e.time.millis)]
  stack := e.stack

/-! ## 2. Attributes -/

/-- Why a record has no line. -/
inductive RecordError
  | access (error : AttributeError)
  | time (error : TimeError)
  | template (error : TemplateError)
  | notCallable (typeName : String)
  | trace (error : TraceError)
  | json (error : JsonError)
deriving DecidableEq

namespace RecordError

/-- The name of the kind of an error. -/
def kind : RecordError → String
  | access e => e.kind
  | time e => e.kind
  | template e => e.kind
  | notCallable _ => "TypeError"
  | trace e => e.kind
  | json e => e.kind

/-- The message of an error. -/
def message : RecordError → String
  | access e => e.message
  | time e => e.message
  | template e => e.message
  | notCallable t => "'" ++ t ++ "' object is not callable"
  | trace e => e.message
  | json e => e.message

end RecordError

namespace Record

/-- The name of the type. -/
def typeName : String := "LogRecord"

/-- An attribute of a record. -/
def get (r : Record) (name : String) : Except RecordError Value :=
  (r.attributes.get typeName name).mapError .access

/-- Assignment to a record. -/
def assign (r : Record) (name : String) (v : Value) : Except RecordError Record :=
  match r.attributes.assign typeName name v with
  | .ok as => .ok { r with attributes := as }
  | .error e => .error (.access e)

/-- A row of assignments, up to the first that fails. -/
def assignAll (r : Record) : List (String × Value) → Except RecordError Record
  | [] => .ok r
  | (name, v) :: ms =>
      match r.assign name v with
      | .ok r => r.assignAll ms
      | .error e => .error e

/-- The name of the operation that makes the message. -/
def messageName : String := "getMessage"

/-- The message, with its arguments filled in. An attribute with the name
of the operation hides it. -/
def message (r : Record) : Except RecordError String :=
  match Value.lookup? messageName r.attributes with
  | some v => .error (.notCallable v.typeName)
  | none => do
      let template ← r.get "msg"
      let args ← r.get "args"
      (messageOf r.stack template args).mapError .template

/-- The time, to the second. -/
def secondStamp (r : Record) : Except RecordError String := do
  let created ← r.get "created"
  (secondText created).mapError .time

/-- Thousandths of a second, in at least three places, sign included. -/
def millisText (s : Stack) (v : Value) : Except TemplateError String :=
  (convert s { noFlags with zero := true } 3 none 'd' 0 v).map String.ofList

/-- The time, to the thousandth of a second. The thousandths are shown as
they are given. -/
def millisecondStamp (r : Record) : Except RecordError String := do
  let second ← r.secondStamp
  let millis ← (millisText r.stack (← r.get "msecs")).mapError .template
  return second ++ "," ++ millis

end Record

/-! ## 3. Lines -/

/-- The forms of a log line. -/
inductive LineFormat
  | text
  | json
deriving DecidableEq

/-- The name of a form. -/
def LineFormat.name : LineFormat → String
  | text => "text"
  | json => "json"

/-- How exactly a line shows the time. -/
inductive Resolution
  | second
  | millisecond
deriving DecidableEq

namespace Record

/-- The time of a record. -/
def stamp (r : Record) : Resolution → Except RecordError String
  | .second => r.secondStamp
  | .millisecond => r.millisecondStamp

/-- The members that every JSON line has. -/
def baseMembers (r : Record) (t : Resolution) : Except RecordError Attributes := do
  let stamp ← r.stamp t
  let level ← r.get "levelname"
  let logger ← r.get "name"
  let module ← r.get "module"
  let function ← r.get "funcName"
  let line ← r.get "lineno"
  let message ← r.message
  return [("timestamp", .string stamp), ("level", level), ("logger", logger),
    ("module", module), ("function", function), ("line", line), ("message", .string message)]

/-- The member for the exception, if there is one. -/
def exceptionMembers (r : Record) : Except RecordError Attributes := do
  let v ← r.get "exc_info"
  if v.isTrue then
    let text ← (traceText r.stack v).mapError .trace
    return [("exception", .string text)]
  else return []

/-- What was assigned to a record in addition to its own attributes. -/
def added (r : Record) : Attributes := r.attributes.filter fun m => m.1 ∉ ownAttributes

/-- The members of the JSON line of a record. -/
def members (r : Record) (t : Resolution) : Except RecordError Attributes := do
  let base ← r.baseMembers t
  let exception ← r.exceptionMembers
  return Value.putAll r.added (base ++ exception)

/-- Attributes as a dictionary. -/
def dictOf (as : Attributes) : Value := .dict (as.map fun m => (.string m.1, m.2))

/-- The record as a JSON object. Its members are one level inside it. -/
def toJson (r : Record) (t : Resolution) : Except RecordError Json := do
  let members ← r.members t
  ((dictOf members).toJson r.stack.levels (r.stack.members + 1)).mapError .json

/-- The record as a JSON line. -/
def jsonLine (r : Record) (t : Resolution) : Except RecordError String :=
  (r.toJson t).map Json.text

/-- The text of an attribute. -/
def shown (r : Record) (name : String) : Except RecordError String := do
  let v ← r.get name
  (v.displayed r.stack.levels r.stack.arguments).mapError fun e => .template (.text e)

/-- The record as a line of text. -/
def textLine (r : Record) : Except RecordError String := do
  let message ← r.message
  let stamp ← r.stamp .second
  let logger ← r.shown "name"
  let level ← r.shown "levelname"
  return stamp ++ " - " ++ logger ++ " - " ++ level ++ " - " ++ message

/-- The record as a line of the given form. -/
def lineAs (r : Record) : LineFormat → Except RecordError String
  | .text => r.textLine
  | .json => r.jsonLine .second

end Record

end Quadratic.Log
