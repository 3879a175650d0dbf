/-
Quadratic.Log.Template.Conversion — a value in the place of a directive.

The conversion letter says how a value is read: as text, as a character,
as an integer in a base, or as a number of the format. Numbers are put
together from three parts (`NumberText`), so that zeros can be filled in
between the sign and the digits; everything else is filled up with
spaces.
-/
import Quadratic.Decimal.Rounded
import Quadratic.Log.Template.Directive
import Quadratic.Log.Template.Error

-- A power is the one of the core library, whatever other instances are
-- imported.
attribute [local instance (high)] instPowNat

namespace Quadratic.Log

/-- A number in parts: its sign, the mark of its base, and the rest. -/
structure NumberText where
  sign : List Char
  mark : List Char
  body : List Char

/-- The sign of a number under the flags of a directive. -/
def signText (f : Flags) (negative : Bool) : List Char :=
  if negative then ['-'] else if f.plus then ['+'] else if f.blank then [' '] else []

/-- A text filled up to a width on one side. -/
def padText (f : Flags) (width : Nat) (cs : List Char) : List Char :=
  let fill := List.replicate (width - cs.length) ' '
  if f.left then cs ++ fill else fill ++ cs

/-- A number filled up to a width; with the flag for zeros they stand
between the sign and the digits. -/
def padNumber (f : Flags) (width : Nat) (t : NumberText) : List Char :=
  if f.zero ∧ ¬ f.left then
    let length := t.sign.length + t.mark.length + t.body.length
    t.sign ++ t.mark ++ Decimal.zeroChars (width - length) ++ t.body
  else padText f width (t.sign ++ t.mark ++ t.body)

/-- The integer that a value stands for in a decimal conversion. A number
of the format is cut off toward zero. -/
def integerOf (conversion : Char) : Value → Except TemplateError Int
  | .int i => .ok i
  | .bool b => .ok (if b then 1 else 0)
  | .float .nan => .error .integerOfNan
  | .float (.infinity _) => .error .integerOfInfinity
  | .float (.finite s k) => .ok (s.apply (Decimal.integerPart k))
  | .object o =>
      match o.integer? with
      | some i => .ok i
      | none => .error (.notANumber conversion o.typeName)
  | v => .error (.notANumber conversion v.typeName)

/-- The integer that a value stands for in a conversion to base 8 or 16. -/
def exactIntegerOf (conversion : Char) (v : Value) : Except TemplateError Int :=
  match v.index? with
  | some i => .ok i
  | none => .error (.notAnInteger conversion v.typeName)

/-- The number of the format that a value stands for. -/
def realOf : Value → Except TemplateError Binary64
  | .float x => .ok x
  | .int i =>
      let x := Binary64.ofInt i
      if x.isFinite then .ok x else .error .integerTooLarge
  | .bool b => .ok (Binary64.ofInt (if b then 1 else 0))
  | .object o =>
      match o.real? with
      | some x => .ok x
      | none => .error (.notReal o.typeName)
  | v => .error (.notReal v.typeName)

/-- An integer in a base. -/
def integerText (f : Flags) (base : Nat) (mark : List Char) (precision : Option Nat)
    (i : Int) : NumberText where
  sign := signText f (i < 0)
  mark := if f.alternate then mark else []
  body := Decimal.padded (precision.getD 0) (Nat.toDigits base i.natAbs)

/-- The most digits that the precision of an integer may ask for. -/
def mostDigits : Nat := 2147483644

/-- An integer, unless the precision asks for too many digits. -/
def integerWithin (precision : Option Nat) (i : Int) : Except TemplateError Int :=
  if precision.any (mostDigits < ·) then .error .tooPrecise else .ok i

/-- An integer to be written in base ten, unless something prevents its
text. -/
def decimalWithin (s : Stack) (precision : Option Nat) (i : Int) : Except TemplateError Int := do
  let i ← integerWithin precision i
  match Value.displayFault? s.levels s.arguments (.int i) with
  | some e => throw (.text e)
  | none => return i

/-- Digits with a point before the last `places` of them. -/
def withPoint (alternate : Bool) (places : Nat) (digits : List Char) : List Char :=
  let digits := Decimal.padded (places + 1) digits
  let whole := digits.take (digits.length - places)
  if places = 0 then (if alternate then whole ++ ['.'] else whole)
  else whole ++ '.' :: digits.drop (digits.length - places)

/-- Digits with a point after the first one, and an exponent. -/
def withExponent (alternate : Bool) (mark : Char) (digits : List Char) (e : Int) : List Char :=
  let fraction :=
    match digits.tail with
    | [] => if alternate then ['.'] else []
    | ds => '.' :: ds
  digits.take 1 ++ fraction ++ mark :: (if e < 0 then '-' else '+') ::
    Decimal.padded 2 (Nat.toDigits 10 e.natAbs)

/-- The digits of a magnitude rounded to `n` significant ones, and the
exponent of the first. Zero has only zeros. -/
def significantDigits (n k : Nat) : List Char × Int :=
  if k = 0 then (Decimal.zeroChars n, 0)
  else
    let (r, e) := Decimal.significant n k
    (Nat.toDigits 10 r, e)

/-- Digits without the zeros at their end. -/
def dropTrailingZeros (cs : List Char) : List Char :=
  (cs.reverse.dropWhile (· = '0')).reverse

/-- As many significant digits as no magnitude needs more: it has at most
309 before the point and 1074 behind it. -/
def allDigits : Nat := 1383

/-- A magnitude in the shorter of the two notations. Zeros at the end are
kept only on demand, so that otherwise no more digits are computed than
there can be. -/
def generalText (alternate : Bool) (mark : Char) (precision k : Nat) : List Char :=
  let n := if precision = 0 then 1 else if alternate then precision else min precision allDigits
  let (digits, e) := significantDigits n k
  let kept :=
    if alternate then digits
    else match dropTrailingZeros digits with
      | [] => ['0']
      | ds => ds
  if e < -4 ∨ (n : Int) ≤ e then withExponent alternate mark kept e
  else if e < 0 then ['0', '.'] ++ Decimal.zeroChars (e.natAbs - 1) ++ kept
  else
    let whole := e.toNat + 1
    let all := kept ++ Decimal.zeroChars (whole - kept.length)
    withPoint alternate (all.length - whole) all

/-- The significant digits that an exponential conversion shows. The digit
before the point is one more than the precision, which is counted in 32
bits with a sign; past the last number there are no places at all. -/
def exponentialDigits (precision : Nat) : Nat :=
  if precision + 1 < 2 ^ (31 : Nat) then precision + 1 else 1

/-- A magnitude under a conversion for numbers of the format. -/
def magnitudeText (alternate : Bool) (conversion : Char) (precision k : Nat) : List Char :=
  match conversion.toLower with
  | 'f' => withPoint alternate precision (Nat.toDigits 10 (Decimal.roundedTo precision k))
  | 'e' =>
      let (digits, e) := significantDigits (exponentialDigits precision) k
      withExponent alternate (if conversion.isUpper then 'E' else 'e') digits e
  | _ => generalText alternate (if conversion.isUpper then 'E' else 'e') precision k

/-- A number of the format under a conversion. -/
def realText (f : Flags) (conversion : Char) (precision : Option Nat) (x : Binary64) :
    NumberText :=
  let inCase (s : String) : List Char :=
    if conversion.isUpper then s.toList.map Char.toUpper else s.toList
  match x with
  | .nan => ⟨signText f false, [], inCase "nan"⟩
  | .infinity s => ⟨signText f (s = .minus), [], inCase "inf"⟩
  | .finite s k =>
      ⟨signText f (s = .minus), [], magnitudeText f.alternate conversion (precision.getD 6) k⟩

/-- The character with a code point. -/
def characterAt (i : Int) : Except TemplateError Char :=
  if 0 ≤ i ∧ i < 0x110000 then
    if h : i.toNat.isValidChar then .ok (Char.ofNatAux i.toNat h) else .error (.surrogate i)
  else .error .characterOutOfRange

/-- The character that a value stands for. -/
def characterOf (v : Value) : Except TemplateError Char :=
  match v.text?, v.index? with
  | some s, _ =>
      match s.toList with
      | [c] => .ok c
      | _ => .error .notACharacter
  | none, some i => characterAt i
  | none, none => .error .notACharacter

/-- A text cut to a precision and filled up to a width. -/
def textField (f : Flags) (width : Nat) (precision : Option Nat) (cs : List Char) : List Char :=
  padText f width (match precision with
    | some p => cs.take p
    | none => cs)

/-- A value under a conversion. -/
def convert (s : Stack) (f : Flags) (width : Nat) (precision : Option Nat) (conversion : Char)
    (index : Nat) (v : Value) : Except TemplateError (List Char) :=
  match conversion with
  | 's' => do
      let text ← (v.displayed s.levels s.arguments).mapError .text
      return textField f width precision text.toList
  | 'r' => do
      let text ← (v.inspected s.levels s.arguments).mapError .text
      return textField f width precision text.toList
  | 'a' => do
      let text ← (v.inspected s.levels s.arguments).mapError .text
      return textField f width precision (Text.asciiChars text.toList)
  | 'c' => (characterOf v).map fun c => padText f width [c]
  | 'd' | 'i' | 'u' => do
      let i ← decimalWithin s precision (← integerOf conversion v)
      return padNumber f width (integerText f 10 [] precision i)
  | 'o' => do
      let i ← integerWithin precision (← exactIntegerOf conversion v)
      return padNumber f width (integerText f 8 ['0', 'o'] precision i)
  | 'x' => do
      let i ← integerWithin precision (← exactIntegerOf conversion v)
      return padNumber f width (integerText f 16 ['0', 'x'] precision i)
  | 'X' => do
      let i ← integerWithin precision (← exactIntegerOf conversion v)
      let t := integerText f 16 ['0', 'X'] precision i
      return padNumber f width { t with body := t.body.map Char.toUpper }
  | 'e' | 'E' | 'f' | 'F' | 'g' | 'G' =>
      (realOf v).map fun x => padNumber f width (realText f conversion precision x)
  | c => .error (.unsupported c index)

end Quadratic.Log
