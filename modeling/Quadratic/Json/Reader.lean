/-
Quadratic.Json.Reader — reading of JSON values.

`Json.ofText?` reads a text: JSON with the three names `NaN`, `Infinity`
and `-Infinity` in addition. A number without fraction and exponent is
an integer, any other one is rounded to the format.

The reader works on lists of characters and has the shape of the
printer. Its depth is bounded by the length of the text, as every call
takes at least one character.
-/
import Quadratic.Decimal.Literal
import Quadratic.Json

namespace Quadratic

namespace Json

/-! ## 1. Strings and numbers -/

/-- White space between the parts of a JSON text. -/
def skipSpace : List Char → List Char
  | c :: cs => if c = ' ' ∨ c = '\n' ∨ c = '\r' ∨ c = '\t' then skipSpace cs else c :: cs
  | [] => []

/-- The value of a hexadecimal digit. -/
def hexDigit? (c : Char) : Option Nat :=
  if '0' ≤ c ∧ c ≤ '9' then some (c.toNat - 0x30)
  else if 'a' ≤ c ∧ c ≤ 'f' then some (c.toNat - 0x57)
  else if 'A' ≤ c ∧ c ≤ 'F' then some (c.toNat - 0x37)
  else none

/-- Four hexadecimal digits. -/
def hexFour? : List Char → Option (Nat × List Char)
  | a :: b :: c :: d :: cs => do
      let a ← hexDigit? a
      let b ← hexDigit? b
      let c ← hexDigit? c
      let d ← hexDigit? d
      return (((a * 16 + b) * 16 + c) * 16 + d, cs)
  | _ => none

/-- The character of a number that is a code point. -/
def charOf? (n : Nat) : Option Char :=
  if h : n.isValidChar then some (Char.ofNatAux n h) else none

/-- The character of an escape with a `u`: four digits, or two escapes
that make up a surrogate pair. -/
def unicodeEscape? (cs : List Char) : Option (Char × List Char) :=
  match hexFour? cs with
  | none => none
  | some (n, cs) =>
      if 0xD800 ≤ n ∧ n < 0xDC00 then
        match cs with
        | '\\' :: 'u' :: cs =>
            match hexFour? cs with
            | some (m, cs) =>
                if 0xDC00 ≤ m ∧ m < 0xE000 then
                  (charOf? (0x10000 + (n - 0xD800) * 0x400 + (m - 0xDC00))).map (·, cs)
                else none
            | none => none
        | _ => none
      else (charOf? n).map (·, cs)

/-- The character that a letter after a backslash stands for. -/
def escapedLetter? (c : Char) : Option Char :=
  match c with
  | '"' => some '"'
  | '\\' => some '\\'
  | '/' => some '/'
  | 'b' => some '\x08'
  | 'f' => some '\x0c'
  | 'n' => some '\n'
  | 'r' => some '\r'
  | 't' => some '\t'
  | _ => none

/-- A string up to its closing quote. -/
def takeString? : Nat → List Char → Option (List Char × List Char)
  | 0, _ => none
  | _ + 1, [] => none
  | _ + 1, '"' :: cs => some ([], cs)
  | n + 1, '\\' :: 'u' :: cs =>
      match unicodeEscape? cs with
      | some (c, cs) => (takeString? n cs).map fun r => (c :: r.1, r.2)
      | none => none
  | n + 1, '\\' :: c :: cs =>
      match escapedLetter? c with
      | some c => (takeString? n cs).map fun r => (c :: r.1, r.2)
      | none => none
  | n + 1, c :: cs =>
      if c.toNat < 0x20 ∨ c = '\\' then none
      else (takeString? n cs).map fun r => (c :: r.1, r.2)

/-- An optional fraction: a point and at least one digit. -/
def takeFraction (cs : List Char) : Option (List Nat) × List Char :=
  match cs with
  | '.' :: rest =>
      match Decimal.Literal.takeDigits Decimal.asciiDigit? rest with
      | ([], _) => (none, cs)
      | (ds, rest) => (some ds, rest)
  | _ => (none, cs)

/-- An optional exponent: a letter, a sign if there is one, and at least
one digit. -/
def takeExponent (cs : List Char) : Option Int × List Char :=
  match cs with
  | c :: rest =>
      if c = 'e' ∨ c = 'E' then
        let (s, rest) := Decimal.Literal.takeSign rest
        match Decimal.Literal.takeDigits Decimal.asciiDigit? rest with
        | ([], _) => (none, cs)
        | (ds, rest) => (some (s.apply (Decimal.ofDigits ds)), rest)
      else (none, cs)
  | [] => (none, cs)

/-- A number without its sign. -/
def takeNumber? (s : Sign) (cs : List Char) : Option (Json × List Char) :=
  let (w, rest) :=
    match cs with
    | '0' :: rest => ([0], rest)
    | _ => Decimal.Literal.takeDigits Decimal.asciiDigit? cs
  if w = [] then none
  else
    let (f, rest) := takeFraction rest
    let (e, rest) := takeExponent rest
    match f, e with
    | none, none => some (int (s.apply (Decimal.ofDigits w)), rest)
    | _, _ => some (real (Decimal.Literal.mk s w (f.getD []) (e.getD 0)).toBinary64, rest)

/-! ## 2. Values -/

mutual

/-- A value at the start of a text. -/
def takeValue? : Nat → List Char → Option (Json × List Char)
  | 0, _ => none
  | n + 1, cs =>
      match skipSpace cs with
      | 'n' :: 'u' :: 'l' :: 'l' :: cs => some (null, cs)
      | 't' :: 'r' :: 'u' :: 'e' :: cs => some (bool true, cs)
      | 'f' :: 'a' :: 'l' :: 's' :: 'e' :: cs => some (bool false, cs)
      | 'N' :: 'a' :: 'N' :: cs => some (real .nan, cs)
      | 'I' :: 'n' :: 'f' :: 'i' :: 'n' :: 'i' :: 't' :: 'y' :: cs =>
          some (real (.infinity .plus), cs)
      | '-' :: 'I' :: 'n' :: 'f' :: 'i' :: 'n' :: 'i' :: 't' :: 'y' :: cs =>
          some (real (.infinity .minus), cs)
      | '"' :: cs =>
          (takeString? (cs.length + 1) cs).map fun r => (string (String.ofList r.1), r.2)
      | '[' :: cs =>
          match skipSpace cs with
          | ']' :: cs => some (array [], cs)
          | cs =>
              match takeValue? n cs with
              | some (x, cs) => (takeElements? n cs).map fun r => (array (x :: r.1), r.2)
              | none => none
      | '\x7b' :: cs =>
          match skipSpace cs with
          | '\x7d' :: cs => some (object [], cs)
          | cs =>
              match takeMember? n cs with
              | some (m, cs) => (takeMembers? n cs).map fun r => (object (m :: r.1), r.2)
              | none => none
      | '-' :: cs => takeNumber? .minus cs
      | cs => takeNumber? .plus cs

/-- The elements after the first one, and the end of the array. -/
def takeElements? : Nat → List Char → Option (List Json × List Char)
  | 0, _ => none
  | n + 1, cs =>
      match skipSpace cs with
      | ']' :: cs => some ([], cs)
      | ',' :: cs =>
          match takeValue? n cs with
          | some (x, cs) => (takeElements? n cs).map fun r => (x :: r.1, r.2)
          | none => none
      | _ => none

/-- A key and its value. -/
def takeMember? : Nat → List Char → Option ((String × Json) × List Char)
  | 0, _ => none
  | n + 1, cs =>
      match skipSpace cs with
      | '"' :: cs =>
          match takeString? (cs.length + 1) cs with
          | some (k, cs) =>
              match skipSpace cs with
              | ':' :: cs => (takeValue? n cs).map fun r => ((String.ofList k, r.1), r.2)
              | _ => none
          | none => none
      | _ => none

/-- The members after the first one, and the end of the object. -/
def takeMembers? : Nat → List Char → Option (List (String × Json) × List Char)
  | 0, _ => none
  | n + 1, cs =>
      match skipSpace cs with
      | '\x7d' :: cs => some ([], cs)
      | ',' :: cs =>
          match takeMember? n cs with
          | some (m, cs) => (takeMembers? n cs).map fun r => (m :: r.1, r.2)
          | none => none
      | _ => none

end

/-- The value that a whole text spells. -/
def ofChars? (cs : List Char) : Option Json :=
  match takeValue? (2 * cs.length + 2) cs with
  | some (j, rest) => if skipSpace rest = [] then some j else none
  | none => none

/-- The value that a whole text spells. -/
def ofText? (s : String) : Option Json := ofChars? s.toList

/-! ## 3. Looking into values -/

/-- The value of a key. -/
def get? (j : Json) (key : String) : Option Json :=
  match j with
  | object ms => (ms.find? fun m => m.1 = key).map (·.2)
  | _ => none

end Json

end Quadratic
