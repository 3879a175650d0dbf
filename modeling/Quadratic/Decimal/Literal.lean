/-
Quadratic.Decimal.Literal — decimal literals: an optional sign, digits
with at most one point among them, and an optional power of ten.

    literal  = sign? (digits ("." digit*)? | "." digits) (("e" | "E") sign? digits)?

`scan` reads a whole text; what it reads it keeps as digit values, so a
literal does not remember in which script its digits were. Which
characters are digits is a parameter: the console takes those of every
script, other sources ASCII alone.

The value of a literal is the decimal `coefficient · 10 ^ power`, exact
for any number of digits and any exponent; `toBinary64` rounds it once.
-/
import Quadratic.Binary64.Rounding
import Quadratic.Decimal.Digit

namespace Quadratic.Decimal

/-- A decimal literal, taken apart. -/
structure Literal where
  sign : Sign
  whole : List Nat
  fraction : List Nat
  exponent : Int

namespace Literal

/-! ## 1. Value -/

/-- All digits of the literal as one number. -/
def coefficient (l : Literal) : Nat := ofDigits (l.whole ++ l.fraction)

/-- The power of ten that goes with the coefficient. -/
def power (l : Literal) : Int := l.exponent - l.fraction.length

/-- The nearest number of the format; infinite if the value is too large. -/
def toBinary64 (l : Literal) : Binary64 :=
  Binary64.ofDecimal l.sign l.coefficient l.power

/-! ## 2. Scanning -/

/-- An optional sign. -/
def takeSign : List Char → Sign × List Char
  | '+' :: cs => (.plus, cs)
  | '-' :: cs => (.minus, cs)
  | cs => (.plus, cs)

/-- The longest run of digits at the start. -/
def takeDigits (digit? : Char → Option Nat) : List Char → List Nat × List Char
  | [] => ([], [])
  | c :: cs =>
      match digit? c with
      | some d =>
          let (ds, rest) := takeDigits digit? cs
          (d :: ds, rest)
      | none => ([], c :: cs)

/-- An optional point with the digits after it. -/
def takeFraction (digit? : Char → Option Nat) : List Char → List Nat × List Char
  | '.' :: cs => takeDigits digit? cs
  | cs => ([], cs)

/-- The power of ten, up to the end of the text; zero if nothing is left. -/
def exponent? (digit? : Char → Option Nat) : List Char → Option Int
  | [] => some 0
  | c :: cs =>
      if c = 'e' ∨ c = 'E' then
        let (s, cs) := takeSign cs
        match takeDigits digit? cs with
        | (d :: ds, []) => some (s.apply (ofDigits (d :: ds)))
        | _ => none
      else none

/-- The literal that the whole text spells. -/
def scan (digit? : Char → Option Nat) (cs : List Char) : Option Literal :=
  let (s, cs) := takeSign cs
  let (w, cs) := takeDigits digit? cs
  let (f, cs) := takeFraction digit? cs
  if w = [] ∧ f = [] then none
  else (exponent? digit? cs).map fun e => ⟨s, w, f, e⟩

end Literal

end Quadratic.Decimal
