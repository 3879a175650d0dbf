/-
Quadratic.Settings — the settings of the log: from keywords, from the
environment, or by default.

A keyword wins over an environment variable, and an argument over both;
what files and folders hold comes last.
A value is checked on its way in, so settings hold a severity and a line
form by meaning; several problems are reported together, in the order of
the fields. Keywords with an underscore at the beginning do not belong to
a field, but may say where values come from.
-/
import Quadratic.Log.Level
import Quadratic.Log.Record
import Quadratic.Settings.Sources
import Quadratic.Text.Space
import Quadratic.Text.Uppercase

namespace Quadratic

/-- Checked settings. -/
structure Settings where
  appName : String
  logLevel : Log.LevelName
  logFormat : Log.LineFormat
deriving DecidableEq

namespace Settings

/-- The settings that hold when nothing is set. -/
def standard : Settings where
  appName := "discriminant-calculator"
  logLevel := .warning
  logFormat := .text

/-! ## 1. Problems -/

/-- What is wrong with a value. -/
inductive Fault
  | notAString
  | unknownLevel (given : String)
  | unknownFormat (given : String)
deriving DecidableEq

namespace Fault

/-- The name of a fault. -/
def code : Fault → String
  | notAString => "string_type"
  | unknownLevel _ | unknownFormat _ => "value_error"

/-- The message of a fault. -/
def message : Fault → String
  | notAString => "Input should be a valid string"
  | unknownLevel s => "Value error, Unknown log level: " ++ Text.quoted s
  | unknownFormat s =>
      "Value error, log_format must be one of ('text', 'json'), got " ++ Text.quoted s

end Fault

/-- A problem with a field. -/
structure Problem where
  field : Field
  fault : Fault
deriving DecidableEq

/-- A problem in one line. -/
def Problem.text (p : Problem) : String := p.field.name ++ ": " ++ p.fault.message

/-- Problems in one line. -/
def problemsText (ps : List Problem) : String := String.intercalate "; " (ps.map Problem.text)

/-! ## 2. Reading values -/

/-- The severity that a text names, in any case and with white space
around it. -/
def levelOf? (s : String) : Option Log.LevelName :=
  Log.LevelName.ofText?
    (String.ofList ((Text.trim Text.isSpace s.toList).flatMap Text.upper))

/-- The line form that a text names, in any case and with white space
around it. -/
def formatOf? (s : String) : Option Log.LineFormat :=
  let name := String.ofList (Text.lowercase (Text.trim Text.isSpace s.toList))
  [Log.LineFormat.text, Log.LineFormat.json].find? fun f => f.name = name

/-- The string that a value is. -/
def stringOf (v : Value) : Except Fault String :=
  match v.text? with
  | some s => .ok s
  | none => .error .notAString

/-- The severity that a value names. -/
def levelOf (v : Value) : Except Fault Log.LevelName := do
  let s ← stringOf v
  match levelOf? s with
  | some l => .ok l
  | none => .error (.unknownLevel s)

/-- The line form that a value names. -/
def formatOf (v : Value) : Except Fault Log.LineFormat := do
  let s ← stringOf v
  match formatOf? s with
  | some f => .ok f
  | none => .error (.unknownFormat s)

/-! ## 3. Evaluation -/

/-- The checked value of a field; the default if nothing is given. -/
def checked {α : Type} (read : Value → Except Fault α) (default : α) (f : Field) :
    Option Value → Except Problem α
  | none => .ok default
  | some v => (read v).mapError fun e => ⟨f, e⟩

/-- The problem of a field, if it has one. -/
def problemOf {α : Type} : Except Problem α → List Problem
  | .ok _ => []
  | .error p => [p]

/-- The settings from sources, or all that is wrong with them. -/
def evaluate (s : Sources) : Except (List Problem) Settings :=
  match checked stringOf standard.appName .appName (s.given? .appName),
      checked levelOf standard.logLevel .logLevel (s.given? .logLevel),
      checked formatOf standard.logFormat .logFormat (s.given? .logFormat) with
  | .ok n, .ok l, .ok f => .ok ⟨n, l, f⟩
  | n, l, f => .error (problemOf n ++ problemOf l ++ problemOf f)

/-- The settings of an environment. -/
def ofEnvironment (env : Environment) : Except (List Problem) Settings :=
  evaluate (Sources.ofEnvironment env)

/-- Why there are no settings. -/
inductive Failure
  | keywords (error : KeywordError)
  | problems (problems : List Problem)
deriving DecidableEq

/-- The settings from keywords and environment. Keywords may also say where
else values come from, and how. Files and folders hold nothing unless it is
said what they hold. -/
def ofKeywords (keywords : List (String × Value)) (env : Environment)
    (stored : Stored := .nothing) : Except Failure Settings := do
  let s ← (Sources.ofKeywords keywords env stored).mapError .keywords
  (evaluate s).mapError .problems

/-! ## 4. Unchecked settings -/

/-- Settings whose values were never checked. Only the two that the log
looks at are kept. -/
structure Unchecked where
  logLevel : Value
  logFormat : Value

/-- Checked settings among the unchecked ones. -/
def toUnchecked (s : Settings) : Unchecked where
  logLevel := .string s.logLevel.text
  logFormat := .string s.logFormat.name

/-- Unchecked settings from keywords, without regard to the environment. -/
def Unchecked.ofKeywords (keywords : List (String × Value)) : Except KeywordError Unchecked := do
  checkFree "BaseModel.model_construct()" "cls" keywords
  return {
    logLevel := (Value.lookup? Field.logLevel.name keywords).getD standard.toUnchecked.logLevel
    logFormat := (Value.lookup? Field.logFormat.name keywords).getD standard.toUnchecked.logFormat }

/-- The line form of unchecked settings: JSON for exactly that string,
text for anything else. -/
def Unchecked.lineFormat (u : Unchecked) : Log.LineFormat :=
  match u.logFormat with
  | .string s => if s = Log.LineFormat.json.name then .json else .text
  | _ => .text

end Settings

end Quadratic
