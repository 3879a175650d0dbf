/-
Quadratic.Settings.Lookup — how the variable that belongs to a field is
found.

The name of such a variable is the name of the field behind a common
start. A `Lookup` says what the start is, whether names are compared
without regard to case, whether empty variables count, and which text
stands for nothing. Keywords describe it (`Lookup.ofKeywords`).
-/
import Quadratic.Settings.Environment
import Quadratic.Settings.Keyword
import Quadratic.Text.Lowercase

namespace Quadratic.Settings

/-! ## 1. Looking up -/

/-- A name in small letters. -/
def fold (s : String) : String := String.ofList (Text.lowercase s.toList)

/-- How variables are looked up. -/
structure Lookup where
  /-- What the names of all variables begin with. -/
  start : String
  /-- Whether names are compared as they are. -/
  exactCase : Bool
  /-- Whether empty variables are passed over. -/
  skipEmpty : Bool
  /-- The text that stands for nothing. -/
  noneText : Option String
deriving DecidableEq

/-- The lookup that holds when nothing is said about it. -/
def Lookup.standard : Lookup where
  start := "DISCRIMINANT_"
  exactCase := false
  skipEmpty := false
  noneText := none

/-- A name in the form in which names are compared. -/
def Lookup.key (l : Lookup) (name : String) : String :=
  if l.exactCase then name else fold name

/-- What a variable says. -/
def Lookup.read (l : Lookup) (text : String) : Value :=
  if l.noneText = some text then .none else .string text

/-- The value of the variable for the field of a name. Of several
variables that are compared as equal the last one counts. -/
def Environment.value? (env : Environment) (l : Lookup) (name : String) : Option Value :=
  (env.reverse.find? fun m =>
      ¬ (l.skipEmpty ∧ m.2 = "") ∧ l.key m.1 = l.key (l.start ++ name)).map fun m =>
    l.read m.2

/-! ## 2. Lookups from keywords -/

/-- The depth of nesting is a number, or counts as false. -/
def checkNesting (v : Value) : Except KeywordError Unit :=
  match v with
  | .int _ | .bool _ | .float _ => .ok ()
  | v => if v.isTrue then .error (.notSubtractable v.typeName) else .ok ()

/-- Whether the start stands before the names of fields. It can be asked
for before names, before aliases, or before both; no field here has an
alias. -/
def usesStart (keywords : List (String × Value)) : Bool :=
  match option? keywords "_env_prefix_target" with
  | none => true
  | some v => v.text? = some "variable" ∨ v.text? = some "all"

/-- The start of names. It is not needed where none stands before names,
but is still brought to small letters unless names are compared as they
are. -/
def startOf (keywords : List (String × Value)) : Except KeywordError String :=
  match option? keywords "_env_prefix", usesStart keywords with
  | none, true => .ok Lookup.standard.start
  | none, false => .ok ""
  | some v, used =>
      match v.text? with
      | some s => .ok (if used then s else "")
      | none =>
          if used then .error .startNotText
          else if isSet keywords "_case_sensitive" then .ok ""
          else .error (.withoutAttribute v.typeName "lower")

/-- The lookup that some keywords describe. -/
def Lookup.ofKeywords (keywords : List (String × Value)) : Except KeywordError Lookup := do
  return {
    start := ← startOf keywords
    exactCase := isSet keywords "_case_sensitive"
    skipEmpty := isSet keywords "_env_ignore_empty"
    noneText := textOption? keywords "_env_parse_none_str" }

end Quadratic.Settings
