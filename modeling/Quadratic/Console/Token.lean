/-
Quadratic.Console.Token — what a token typed at the console stands for:
a finite number, written as a decimal literal in the digits of any
script.

A token that is no literal and a literal whose value rounds to an
infinity are refused, with the token quoted in the message, so that
whatever was typed stays on one line of printable characters.
-/
import Quadratic.Decimal.Literal
import Quadratic.Text.Quoted

namespace Quadratic.Console

/-- Why a token is refused. -/
inductive TokenError
  | notDecimal (token : String)
  | outOfRange (token : String)
deriving DecidableEq

/-- The message of an error. -/
def TokenError.message : TokenError → String
  | notDecimal t => "Not a decimal number: " ++ Text.quoted t
  | outOfRange t => "Number out of range: " ++ Text.quoted t

/-- The finite number that a token spells. -/
def numberOf (token : String) : Except TokenError Binary64 :=
  match Decimal.Literal.scan Decimal.digit? token.toList with
  | none => .error (.notDecimal token)
  | some l =>
      let x := l.toBinary64
      if x.isFinite then .ok x else .error (.outOfRange token)

end Quadratic.Console
