/-
Quadratic.Log.Template — message templates: a text with directives that
are replaced by arguments.

A directive takes the next argument, or the value of its key when the
arguments are a dictionary; `%%` takes none and stands for a percent
sign. A width or a precision `*` takes an argument too. Every argument
has to be taken, except a dictionary or a list.

The pieces of a template (`Quadratic.Log.Template.Directive`) are filled
in from left to right, and the first thing that goes wrong is the error
of the whole.
-/
import Quadratic.Log.Template.Conversion

-- A power is the one of the core library, whatever other instances are
-- imported.
attribute [local instance (high)] instPowNat

namespace Quadratic.Log

/-- The arguments of a template. -/
inductive Arguments
  | values (vs : List Value)
  | mapping (members : List (Value × Value))
  | sequence (items : List Value)

/-- The arguments that a value amounts to. The parts of a tuple are
arguments one by one, and anything else is a single one. -/
def Arguments.ofValue : Value → Arguments
  | .tuple vs => .values vs
  | .dict ms => .mapping ms
  | .list vs => .sequence vs
  | v => .values [v]

/-- The values that are next in turn. A mapping or sequence is in turn as
a whole, until a key puts a value in its place. -/
def Arguments.supply : Arguments → List Value
  | .values vs => vs
  | .mapping ms => [.dict ms]
  | .sequence vs => [.list vs]

/-- The next argument. -/
def nextArgument : List Value → Except TemplateError (Value × List Value)
  | v :: vs => .ok (v, vs)
  | [] => .error .tooFewArguments

/-- The integer that a star takes. -/
def starArgument (supply : List Value) : Except TemplateError (Int × List Value) :=
  match nextArgument supply with
  | .ok (.int i, vs) => .ok (i, vs)
  | .ok (.bool b, vs) => .ok (if b then 1 else 0, vs)
  | .ok _ => .error .starNeedsInteger
  | .error e => .error e

/-- The values in turn after the key of a directive was looked up. -/
def resolveKey (args : Arguments) (supply : List Value) : Key → Except TemplateError (List Value)
  | .absent => .ok supply
  | key =>
      match args, key with
      | .mapping ms, .named k =>
          match ms.find? fun m => m.1.text? = some k with
          | some m => .ok [m.2]
          | none => .error (.keyMissing k)
      | .sequence _, .named _ => .error .indexNotInteger
      | .mapping _, _ | .sequence _, _ => .error .incompleteKey
      | .values _, _ => .error .mappingRequired

/-- The flags and the width that an integer stands for. A negative one
means alignment to the left. The least integer of 64 bits has no
opposite there, and fills up to nothing. -/
def starWidth (f : Flags) (i : Int) : Except TemplateError (Flags × Nat) :=
  if i = -(2 ^ (63 : Nat)) then .ok ({ f with left := true }, 0)
  else if 2 ^ (63 : Nat) ≤ i.natAbs then .error .starTooWide
  else .ok (if i < 0 then { f with left := true } else f, i.natAbs)

/-- The precision that an integer stands for. A negative one means zero. -/
def starPrecision (i : Int) : Except TemplateError Nat :=
  if -(2 ^ (31 : Nat)) ≤ i ∧ i < 2 ^ (31 : Nat) then .ok i.toNat else .error .starTooPrecise

/-- The width of a directive, and its flags. -/
def resolveWidth (f : Flags) (supply : List Value) :
    Amount → Except TemplateError (Flags × Nat × List Value)
  | .absent => .ok (f, 0, supply)
  | .given n => .ok (f, n, supply)
  | .tooBig => .error .widthTooBig
  | .argument => do
      let (i, vs) ← starArgument supply
      let (f, n) ← starWidth f i
      return (f, n, vs)

/-- The precision of a directive. -/
def resolvePrecision (supply : List Value) :
    Amount → Except TemplateError (Option Nat × List Value)
  | .absent => .ok (none, supply)
  | .given n => .ok (some n, supply)
  | .tooBig => .error .precisionTooBig
  | .argument => do
      let (i, vs) ← starArgument supply
      return (some (← starPrecision i), vs)

/-- The width from which on a text is too long to be put together. -/
def widthBound : Nat := 2 ^ (30 : Nat)

/-- A directive with its arguments, and the values still to come. -/
def fillDirective (s : Stack) (args : Arguments) (supply : List Value) (d : Directive) :
    Except TemplateError (List Char × List Value) := do
  let supply ← resolveKey args supply d.key
  let (flags, width, supply) ← resolveWidth d.flags supply d.width
  let (precision, supply) ← resolvePrecision supply d.precision
  match d.conversion with
  | none => .error .incomplete
  | some c =>
      let (v, supply) ← nextArgument supply
      let cs ← convert s flags (if width < widthBound then width else 0) precision c d.index v
      if width < widthBound then return (cs, supply) else throw .tooLong

/-- The pieces of a template with their arguments. Arguments that are left
over at the end are an error, but not a dictionary or a list. -/
def fillPieces (s : Stack) (args : Arguments) : List Value → List Piece → Except TemplateError (List Char)
  | supply, [] =>
      match args, supply with
      | .values _, _ :: _ => .error .tooManyArguments
      | _, _ => .ok []
  | supply, .char c :: ps => (fillPieces s args supply ps).map (c :: ·)
  | supply, .directive d :: ps =>
      match fillDirective s args supply d with
      | .ok (cs, supply) => (fillPieces s args supply ps).map (cs ++ ·)
      | .error e => .error e

/-- A template with its arguments filled in. -/
def fill (s : Stack) (template : String) (args : Arguments) : Except TemplateError String :=
  (fillPieces s args args.supply (pieces template.toList)).map String.ofList

/-- The message of a template, which is the text of a value. Without
arguments it is the template itself, percent signs included. -/
def messageOf (s : Stack) (template args : Value) : Except TemplateError String := do
  let text ← (template.displayed s.levels s.template).mapError .text
  if args.isTrue then fill s text (Arguments.ofValue args) else return text

end Quadratic.Log
