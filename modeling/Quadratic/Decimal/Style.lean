/-
Quadratic.Decimal.Style — how a number is written: the same shortest
digits in two notations, and a record of the choices that tell one
style from another.

* `Style.report` is for the reader of the transcript: positional from
  0.001 to below ten million, otherwise one digit before the point and
  `E` with a bare exponent.
* `Style.diagnostic` is for log messages: positional from 0.0001 to below
  10¹⁶, otherwise `e` with a signed exponent of at least two digits.
* `Style.json` is the diagnostic style with the names that JSON readers
  know for NaN and the infinities.

Positional notation always has a digit on both sides of the point.

The digits and the place of the point can be read off a text in the
diagnostic style again (`Decimal.digitsOfText`).
-/
import Quadratic.Binary64.Rounding
import Quadratic.Decimal.Shortest

namespace Quadratic

namespace Decimal

/-! ## 1. The two notations -/

/-- `n` zeros. -/
def zeroChars (n : Nat) : List Char := List.replicate n '0'

/-- Digits with a point at place `point`, filled up with zeros. -/
def positional (digits : List Char) (point : Int) : List Char :=
  if point ≤ 0 then ['0', '.'] ++ zeroChars point.natAbs ++ digits
  else if digits.length ≤ point.toNat then
    digits ++ zeroChars (point.toNat - digits.length) ++ ['.', '0']
  else digits.take point.toNat ++ '.' :: digits.drop point.toNat

/-- The digits of an integer, with a minus sign if it is negative. -/
def intChars (i : Int) : List Char :=
  if i < 0 then '-' :: Nat.toDigits 10 i.natAbs else Nat.toDigits 10 i.natAbs

/-- The most digits with which an integer is written. -/
def mostWritten : Nat := 4300

/-- An integer that can be written. -/
def IsShort (i : Int) : Prop := (Nat.toDigits 10 i.natAbs).length ≤ mostWritten

instance (i : Int) : Decidable (IsShort i) := inferInstanceAs (Decidable (_ ≤ _))

/-- Digits filled up with zeros on the left. -/
def padded (width : Nat) (cs : List Char) : List Char :=
  zeroChars (width - cs.length) ++ cs

/-- A sign in front, if the number is negative. -/
def signChars : Sign → List Char
  | .plus => []
  | .minus => ['-']

end Decimal

/-! ## 2. Styles -/

/-- The choices that make up a style. -/
structure Style where
  /-- The text of NaN. -/
  nan : List Char
  /-- The text of positive infinity. -/
  infinity : List Char
  /-- Whether a positive number with these shortest digits is written in
  positional notation. -/
  isPositional : Binary64 → Decimal → Bool
  /-- The letter before the exponent. -/
  mark : Char
  /-- Whether a single digit is followed by `.0` in scientific notation. -/
  fullFraction : Bool
  /-- Whether an exponent that is not negative has a plus sign. -/
  plusSign : Bool
  /-- The least number of digits in an exponent. -/
  exponentWidth : Nat

namespace Style

/-- One digit before the point, the others after it, and the exponent. -/
def scientific (st : Style) (digits : List Char) (point : Int) : List Char :=
  let e := point - 1
  let fraction :=
    match digits.tail with
    | [] => if st.fullFraction then ['.', '0'] else []
    | ds => '.' :: ds
  let sign := if e < 0 then ['-'] else if st.plusSign then ['+'] else []
  digits.take 1 ++ fraction ++
    st.mark :: sign ++ Decimal.padded st.exponentWidth (Nat.toDigits 10 e.natAbs)

/-- The text of the magnitude of rank `k`. -/
def magnitude (st : Style) (k : Fin infinityRank) : List Char :=
  if k.val = 0 then ['0', '.', '0']
  else
    let d := Decimal.shortest k
    if st.isPositional (.finite .plus k) d then Decimal.positional d.digits d.point
    else st.scientific d.digits d.point

/-- The text of a number, as characters. -/
def chars (st : Style) : Binary64 → List Char
  | .nan => st.nan
  | .infinity s => Decimal.signChars s ++ st.infinity
  | .finite s k => Decimal.signChars s ++ st.magnitude k

/-- The text of a number. -/
def text (st : Style) (x : Binary64) : String := String.ofList (st.chars x)

/-- The smallest number that a report writes in positional notation. -/
def reportLow : Binary64 := Binary64.ofDecimal .plus 1 (-3)

/-- The number from which on a report uses scientific notation. -/
def reportHigh : Binary64 := Binary64.ofDecimal .plus 1 7

/-- The style of the transcript. -/
def report : Style where
  nan := "NaN".toList
  infinity := "Infinity".toList
  isPositional x _ := reportLow.le x && x.lt reportHigh
  mark := 'E'
  fullFraction := true
  plusSign := false
  exponentWidth := 1

/-- The style of log messages. -/
def diagnostic : Style where
  nan := "nan".toList
  infinity := "inf".toList
  isPositional _ d := -4 < d.point && d.point ≤ 16
  mark := 'e'
  fullFraction := false
  plusSign := true
  exponentWidth := 2

/-- The style of numbers in JSON lines. -/
def json : Style :=
  { diagnostic with nan := "NaN".toList, infinity := "Infinity".toList }

end Style

/-! ## 3. The digits of a text -/

namespace Decimal

/-- What stands before and behind the first place of a character. -/
def partition (c : Char) (cs : List Char) : List Char × List Char :=
  (cs.takeWhile (· ≠ c), (cs.dropWhile (· ≠ c)).tail)

/-- The exponent that stands behind its mark. Nothing stands for zero. -/
def exponentOf : List Char → Int
  | '-' :: ds => -(Nat.ofDigitChars 10 ds 0 : Int)
  | '+' :: ds => Nat.ofDigitChars 10 ds 0
  | ds => Nat.ofDigitChars 10 ds 0

/-- The digits on both sides of a point, without the zeros at their ends, and
where the point is then. -/
def trimmed (whole fraction : List Char) (exponent : Int) : List Char × Int :=
  let all := whole ++ fraction
  let stripped := all.dropWhile (· = '0')
  ((stripped.reverse.dropWhile (· = '0')).reverse,
    whole.length + exponent - ((all.length : Int) - stripped.length))

/-- The significant digits of a text, and the place of the point: the value is
`0.DIGITS · 10 ^ point`. -/
def digitsOfText (cs : List Char) : List Char × Int :=
  let (mantissa, exponent) := partition 'e' cs
  let (whole, fraction) := partition '.' mantissa
  trimmed whole fraction (exponentOf exponent)

end Decimal

end Quadratic
