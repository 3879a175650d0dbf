/-
Quadratic.Log.Template.Directive — the directives of a template: each a
percent sign and what follows it.

    % (key)? flag* width? (. precision)? [hlL]? conversion

`pieces` cuts a template into characters and directives, and always
succeeds: what is wrong with a directive is part of the piece. A doubled
percent sign is a character.
-/
import Quadratic.Decimal.Literal

-- A power is the one of the core library, whatever other instances are
-- imported.
attribute [local instance (high)] instPowNat

namespace Quadratic.Log

/-! ## 1. Directives -/

/-- The key of a directive. -/
inductive Key
  | absent
  | named (key : String)
  | unterminated

/-- A width or a precision. -/
inductive Amount
  | absent
  | given (n : Nat)
  | argument
  | tooBig

/-- The flags of a directive. -/
structure Flags where
  left : Bool
  plus : Bool
  blank : Bool
  alternate : Bool
  zero : Bool

/-- A directive. The conversion is missing if the template ends before
it; the index is its place in the template. -/
structure Directive where
  key : Key
  flags : Flags
  width : Amount
  precision : Amount
  conversion : Option Char
  index : Nat

/-- A part of a template. -/
inductive Piece
  | char (c : Char)
  | directive (d : Directive)

/-! ## 2. Cutting a template -/

/-- A key up to the parenthesis that closes it, where `depth` more are
open. -/
def takeKey (depth : Nat) : List Char → Option (List Char × List Char)
  | [] => none
  | c :: cs =>
      if c = ')' ∧ depth = 0 then some ([], cs)
      else
        let depth := if c = ')' then depth - 1 else if c = '(' then depth + 1 else depth
        (takeKey depth cs).map fun r => (c :: r.1, r.2)

/-- The optional key at the start of a directive. -/
def takeKey? : List Char → Key × List Char
  | '(' :: cs =>
      match takeKey 0 cs with
      | some (k, rest) => (.named (String.ofList k), rest)
      | none => (.unterminated, [])
  | cs => (.absent, cs)

/-- Flags in any order and number. -/
def takeFlags (f : Flags) : List Char → Flags × List Char
  | '-' :: cs => takeFlags { f with left := true } cs
  | '+' :: cs => takeFlags { f with plus := true } cs
  | ' ' :: cs => takeFlags { f with blank := true } cs
  | '#' :: cs => takeFlags { f with alternate := true } cs
  | '0' :: cs => takeFlags { f with zero := true } cs
  | cs => (f, cs)

/-- A row of digits below a bound, or a star. -/
def takeAmount (bound : Nat) : List Char → Amount × List Char
  | '*' :: cs => (.argument, cs)
  | cs =>
      match Decimal.Literal.takeDigits Decimal.asciiDigit? cs with
      | ([], rest) => (.absent, rest)
      | (ds, rest) =>
          if Decimal.ofDigits ds < bound then (.given (Decimal.ofDigits ds), rest)
          else (.tooBig, rest)

/-- The optional precision after a point. A point alone means zero. -/
def takePrecision : List Char → Amount × List Char
  | '.' :: cs =>
      match takeAmount (2 ^ (31 : Nat)) cs with
      | (.absent, rest) => (.given 0, rest)
      | r => r
  | cs => (.absent, cs)

/-- A size letter, which has no meaning. -/
def dropSize : List Char → List Char
  | c :: cs => if c = 'h' ∨ c = 'l' ∨ c = 'L' then cs else c :: cs
  | [] => []

/-- No flags. -/
def noFlags : Flags := ⟨false, false, false, false, false⟩

/-- The directive after a percent sign in a template of `total`
characters. -/
def takeDirective (total : Nat) (cs : List Char) : Directive × List Char :=
  let (key, cs) := takeKey? cs
  let (flags, cs) := takeFlags noFlags cs
  let (width, cs) := takeAmount (2 ^ (63 : Nat)) cs
  let (precision, cs) := takePrecision cs
  match dropSize cs with
  | c :: cs => (⟨key, flags, width, precision, some c, total - cs.length - 1⟩, cs)
  | [] => (⟨key, flags, width, precision, none, total⟩, [])

/-- The pieces of the last part of a template, with one step for every
piece. -/
def piecesFrom (total : Nat) : Nat → List Char → List Piece
  | 0, _ => []
  | _ + 1, [] => []
  | n + 1, '%' :: '%' :: cs => .char '%' :: piecesFrom total n cs
  | n + 1, '%' :: cs =>
      let (d, cs) := takeDirective total cs
      .directive d :: piecesFrom total n cs
  | n + 1, c :: cs => .char c :: piecesFrom total n cs

/-- The pieces of a template. -/
def pieces (template : List Char) : List Piece :=
  piecesFrom template.length template.length template

end Quadratic.Log
