/-
Quadratic.Settings.Keyword — keywords that say how settings are found.

Such keywords begin with an underscore. One that is missing and one whose
value is none mean the same. `KeywordError` lists why keywords are
refused; the modules that give them a meaning check them.
-/
import Quadratic.Text.Quoted
import Quadratic.Value

namespace Quadratic.Settings

/-! ## 1. Refused keywords -/

/-- Why keywords are refused. -/
inductive KeywordError
  | taken (call name : String)
  | notSubtractable (typeName : String)
  | notComparable (typeName : String)
  | withoutLength (typeName : String)
  | withoutAttribute (typeName name : String)
  | notIterable (typeName : String)
  | notUnpackable (typeName : String)
  | notCallable (typeName : String)
  | notAString (typeName : String)
  | tooFewParts (count : Nat)
  | tooManyParts
  | notAPath (typeName : String)
  | unknownHome
  | pathTooLong (path : String)
  | notAFolder (found : String)
  | notArguments (typeName : String)
  | argumentStart (start : String)
  | badArguments (reason : String)
  | ended (code : Nat)
  | startNotText
deriving DecidableEq

namespace KeywordError

/-- The name of the kind of an error. -/
def kind : KeywordError → String
  | taken _ _ | notSubtractable _ | notComparable _ | withoutLength _ | notIterable _
  | notUnpackable _ | notCallable _ | notAString _ | notAPath _ => "TypeError"
  | withoutAttribute _ _ => "AttributeError"
  | tooFewParts _ | tooManyParts => "ValueError"
  | unknownHome => "RuntimeError"
  | pathTooLong _ => "OSError"
  | notAFolder _ | notArguments _ | argumentStart _ | badArguments _ | startNotText =>
      "SettingsError"
  | ended _ => "SystemExit"

/-- The message of an error. -/
def message : KeywordError → String
  | taken call name => call ++ " got multiple values for argument " ++ Text.quoted name
  | notSubtractable t => "unsupported operand type(s) for -: '" ++ t ++ "' and 'int'"
  | notComparable t => "'<=' not supported between instances of '" ++ t ++ "' and 'int'"
  | withoutLength t => "object of type '" ++ t ++ "' has no len()"
  | withoutAttribute t name => "'" ++ t ++ "' object has no attribute " ++ Text.quoted name
  | notIterable t => "'" ++ t ++ "' object is not iterable"
  | notUnpackable t => "cannot unpack non-iterable " ++ t ++ " object"
  | notCallable t => "'" ++ t ++ "' object is not callable"
  | notAString t => "expected string or bytes-like object, got '" ++ t ++ "'"
  | tooFewParts n => "not enough values to unpack (expected 2, got " ++ toString n ++ ")"
  | tooManyParts => "too many values to unpack (expected 2)"
  | notAPath t => "expected str, bytes or os.PathLike object, not " ++ t
  | unknownHome => "Could not determine home directory."
  | pathTooLong path => "[Errno 36] File name too long: " ++ Text.quoted path
  | notAFolder found => "secrets_dir must reference a directory, not a " ++ found
  | notArguments t =>
      "cli_parse_args must be a list or tuple of strings, received <class '" ++ t ++ "'>"
  | argumentStart start => "CLI settings source prefix is invalid: " ++ start
  | badArguments reason => "error parsing CLI: " ++ reason
  | ended code => toString code
  | startNotText =>
      "error getting value for field \"app_name\" from source \"EnvSettingsSource\""

end KeywordError

/-! ## 2. Keywords and their values -/

/-- Refuses the keyword that a call has already taken for itself. -/
def checkFree (call name : String) (keywords : List (String × Value)) :
    Except KeywordError Unit :=
  match Value.lookup? name keywords with
  | some _ => .error (.taken call name)
  | none => .ok ()

/-- The value of a keyword, unless it is missing or none. -/
def option? (keywords : List (String × Value)) (name : String) : Option Value :=
  match Value.lookup? name keywords with
  | some .none => none
  | v => v

/-- The text that a keyword gives. -/
def textOption? (keywords : List (String × Value)) (name : String) : Option String :=
  (option? keywords name).bind Value.text?

/-- Whether a keyword is given and counts as true. -/
def isSet (keywords : List (String × Value)) (name : String) : Bool :=
  (option? keywords name).any Value.isTrue

/-- A check of the value of a keyword, if it is given. -/
def checkOption (keywords : List (String × Value)) (name : String)
    (check : Value → Except KeywordError Unit) : Except KeywordError Unit :=
  match option? keywords name with
  | some v => check v
  | none => .ok ()

/-- A value has a length. -/
def checkLength : Value → Except KeywordError Unit
  | .string _ | .rootCount _ | .list _ | .tuple _ | .dict _ => .ok ()
  | v => .error (.withoutLength v.typeName)

end Quadratic.Settings
