/-
Quadratic.Text.Uppercase — capital forms, as far as they decide whether
a text spells a name made of ASCII letters.

`upper` is the full upper-case mapping on every character whose capital
form consists of ASCII letters. Any other character is left as it is;
its capital form would not be made of ASCII letters either, so no name
could tell the difference.
-/

namespace Quadratic.Text

/-- The capital form of a character. -/
def upper (c : Char) : List Char :=
  match c.toNat with
  | 0xDF => ['S', 'S']
  | 0x131 => ['I']
  | 0x17F => ['S']
  | 0xFB00 => ['F', 'F']
  | 0xFB01 => ['F', 'I']
  | 0xFB02 => ['F', 'L']
  | 0xFB03 => ['F', 'F', 'I']
  | 0xFB04 => ['F', 'F', 'L']
  | 0xFB05 => ['S', 'T']
  | 0xFB06 => ['S', 'T']
  | _ => [c.toUpper]

end Quadratic.Text
