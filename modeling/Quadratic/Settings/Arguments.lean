/-
Quadratic.Settings.Arguments — values for fields in a row of arguments.

An option is a name behind two flags. Its value follows after an equals
sign, or is the next argument. An argument that belongs to no option is
left over, and all of them are after two flags alone. `ArgumentStyle`
says how options are written; `ArgumentStyle.scan` reads a row from left
to right, and the first argument that does not fit ends the reading.
-/
import Quadratic.Decimal.Digit
import Quadratic.Settings.Field
import Quadratic.Settings.Keyword
import Quadratic.Text.Lowercase
import Quadratic.Text.Space

namespace Quadratic.Settings

/-! ## 1. Styles -/

/-- How arguments are written. -/
structure ArgumentStyle where
  /-- The character in front of options. -/
  flag : Char
  /-- What the names of all options begin with. -/
  start : List Char
  /-- Whether hyphens stand in names, in place of low lines. -/
  hyphens : Bool
  /-- Whether the names of options are taken as they are. -/
  exactCase : Bool
  /-- Whether arguments may be left over. -/
  skipUnknown : Bool
  /-- Whether an argument that does not fit ends the program. -/
  exits : Bool
  /-- The text that stands for nothing. -/
  noneText : String

namespace ArgumentStyle

/-- The option for a field. -/
def option (s : ArgumentStyle) (f : Field) : List Char :=
  s.flag :: s.flag :: s.start ++
    f.name.toList.map fun c => if s.hyphens ∧ c = '_' then '-' else c

/-- The options that ask for help. -/
def helpOptions (s : ArgumentStyle) : List (List Char) :=
  [[s.flag, 'h'], s.flag :: s.flag :: "help".toList]

/-- An argument with its option in small letters. What follows the option is
kept up to the end of the line. -/
def fold (s : ArgumentStyle) (arg : List Char) : List Char :=
  let word := arg.takeWhile fun c => ¬ (Text.isSpace c ∨ c = '=')
  if s.exactCase ∨ arg.head? ≠ some s.flag ∨ word.length < 2 then arg
  else Text.lowercase word ++ (arg.drop word.length).takeWhile fun c => c ≠ '\n'

/-- What a value says. -/
def read (s : ArgumentStyle) (value : List Char) : Value :=
  if value = s.noneText.toList then .none else .string (String.ofList value)

/-! ## 2. Kinds of arguments -/

/-- What an argument is. -/
inductive Kind
  | option (f : Field) (value : Option (List Char))
  | help (value : Option (List Char))
  | separator
  | unknown
  | value
deriving DecidableEq

/-- The option that a text is, with a value that was given to it. -/
def named? (s : ArgumentStyle) (text : List Char) (value : Option (List Char)) : Option Kind :=
  match Field.all.find? fun f => s.option f = text with
  | some f => some (.option f value)
  | none => if text ∈ s.helpOptions then some (.help value) else none

/-- Whether a text is a number below zero: digits, with a point among or
before them. -/
def isNegativeNumber (arg : List Char) : Bool :=
  match arg with
  | '-' :: cs =>
      let isDigit := fun c => (Decimal.digit? c).isSome
      match cs.dropWhile isDigit with
      | [] => cs ≠ []
      | '.' :: fraction => fraction ≠ [] ∧ fraction.all isDigit
      | _ => false
  | _ => false

/-- The short option that asks for help, with more letters behind it. They
do not matter, unless they begin with a flag. -/
def attached? (s : ArgumentStyle) (arg : List Char) : Option Kind :=
  match arg with
  | c :: 'h' :: d :: cs =>
      if c ≠ s.flag then none
      else if d = s.flag then some (.help (some (d :: cs)))
      else some (.help none)
  | _ => none

/-- The kind of an argument. A flag alone, a number below zero, and what
holds a space are values, although they begin with a flag. -/
def kindOf (s : ArgumentStyle) (arg : List Char) : Kind :=
  if arg = ['-', '-'] then .separator
  else if arg.head? ≠ some s.flag then .value
  else
    match s.named? arg none with
    | some k => k
    | none =>
        let name := arg.takeWhile fun c => c ≠ '='
        let value := arg.drop (name.length + 1)
        match (if '=' ∈ arg then s.named? name (some value) else none).or (s.attached? arg) with
        | some k => k
        | none =>
            if arg.length = 1 ∨ isNegativeNumber arg ∨ ' ' ∈ arg then .value else .unknown

/-! ## 3. Reading a row -/

/-- What a row of arguments gives: values for fields, and what is left
over. -/
structure Scan where
  values : List (Field × Value)
  rest : List (List Char)

/-- What is answered to arguments that do not fit. -/
def refuse (s : ArgumentStyle) (reason : String) : KeywordError :=
  if s.exits then .ended 2 else .badArguments reason

/-- Reads a row of arguments, after an option that still waits for its
value. -/
def scan (s : ArgumentStyle) : Option Field → List (List Char) → Except KeywordError Scan
  | none, [] => .ok ⟨[], []⟩
  | some f, [] => .error (s.refuse (missing f))
  | some f, arg :: args =>
      if s.kindOf arg = .value then
        (s.scan none args).map fun r => { r with values := (f, s.read arg) :: r.values }
      else .error (s.refuse (missing f))
  | none, arg :: args =>
      match s.kindOf arg with
      | .option f none => s.scan (some f) args
      | .option f (some value) =>
          (s.scan none args).map fun r => { r with values := (f, s.read value) :: r.values }
      | .help none => .error (.ended 0)
      | .help (some value) =>
          .error (s.refuse ("argument " ++
            String.intercalate "/" (s.helpOptions.map String.ofList) ++
            ": ignored explicit argument " ++ Text.quoted (String.ofList value)))
      | .separator => .ok ⟨[], arg :: args⟩
      | .unknown | .value => (s.scan none args).map fun r => { r with rest := arg :: r.rest }
where
  /-- The complaint about an option without a value. -/
  missing (f : Field) : String :=
    "argument " ++ String.ofList (s.option f) ++ ": expected one argument"

/-- The values that a row of arguments gives. -/
def values (s : ArgumentStyle) (args : List (List Char)) :
    Except KeywordError (List (Field × Value)) := do
  let r ← s.scan none (args.map s.fold)
  if r.rest = [] ∨ s.skipUnknown then return r.values
  else
    .error (s.refuse ("unrecognized arguments: " ++
      String.intercalate " " (r.rest.map String.ofList)))

end ArgumentStyle

/-! ## 4. Arguments from keywords -/

/-- Whether a text can be the start of options: one or more words with
points between them. Beyond ASCII every character counts as a letter. -/
def isArgumentStart (start : List Char) : Bool :=
  let isLetter := fun (c : Char) => c.isAlpha || c = '_' || 0x80 ≤ c.toNat
  start.head? ≠ some '.' && start.getLast? ≠ some '.' &&
    match start.filter fun c => c ≠ '.' with
    | [] => false
    | c :: cs => isLetter c && cs.all fun c => isLetter c || c.isDigit

/-- The start of options is a text. What counts as false is no start, but
still needs a length. -/
def checkArgumentStart (v : Value) : Except KeywordError Unit :=
  if ¬ v.isTrue then checkLength v
  else
    match v.text? with
    | some s => if isArgumentStart s.toList then .ok () else .error (.argumentStart s)
    | none => .error (.withoutAttribute v.typeName "startswith")

/-- Arguments are a list. A truth value stands for those of the process or
for none, and so does zero. -/
def argumentsOf : Value → Except KeywordError (List Value)
  | .list vs | .tuple vs => .ok vs
  | .bool _ => .ok []
  | .int i => if i = 0 then .ok [] else .error (.notArguments (Value.int i).typeName)
  | .float x =>
      if (Value.float x).isTrue then .error (.notArguments (Value.float x).typeName) else .ok []
  | v => .error (.notArguments v.fullTypeName)

/-- The text of an argument. What counts as false is an empty text. -/
def argumentOf (v : Value) : Except KeywordError (List Char) :=
  match v.text? with
  | some s => .ok s.toList
  | none => if v.isTrue then .error (.notAString v.typeName) else .ok []

/-- The way of writing arguments that some keywords describe. -/
def ArgumentStyle.ofKeywords (keywords : List (String × Value)) : ArgumentStyle where
  flag :=
    match (textOption? keywords "_cli_flag_prefix_char").map String.toList with
    | some [c] => c
    | _ => '-'
  start :=
    match textOption? keywords "_cli_prefix" with
    | none | some "" => []
    | some s => s.toList ++ ['.']
  hyphens := isSet keywords "_cli_kebab_case"
  exactCase :=
    match option? keywords "_case_sensitive" with
    | none | some (.bool false) => false
    | some _ => true
  skipUnknown := isSet keywords "_cli_ignore_unknown_args"
  exits := (option? keywords "_cli_exit_on_error").all Value.isTrue
  noneText :=
    match textOption? keywords "_cli_parse_none_str", option? keywords "_cli_avoid_json" with
    | none, some (.bool true) | some "", some (.bool true) => "None"
    | none, _ | some "", _ => "null"
    | some s, _ => s

/-- The values that the arguments among some keywords give. -/
def argumentValues (keywords : List (String × Value)) :
    Except KeywordError (List (Field × Value)) :=
  match option? keywords "_cli_parse_args" with
  | none => .ok []
  | some v => do
      checkOption keywords "_cli_prefix" checkArgumentStart
      (ArgumentStyle.ofKeywords keywords).values (← (← argumentsOf v).mapM argumentOf)

end Quadratic.Settings
