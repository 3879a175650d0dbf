/-
Quadratic.Json — JSON values with exact integers, numbers of the 64-bit
format, and objects that keep the order of their members.

`Json.text` writes a value on one line, with `, ` and `: ` between the
parts. A string keeps every character from U+0020 on as it is, except
the quote and the backslash. NaN and the infinities are written by name.

The parts after the first element of an array or object are written by
functions of their own (`elementsTail`, `membersTail`), each of which
has one reading function to be compared with
(`Quadratic.Json.Reader`).
-/
import Quadratic.Decimal.Style
import Quadratic.Text.Quoted

namespace Quadratic

/-- A JSON value. -/
inductive Json
  | null
  | bool (b : Bool)
  | int (i : Int)
  | real (x : Binary64)
  | string (s : String)
  | array (items : List Json)
  | object (members : List (String × Json))

namespace Json

/-! ## Writing -/

/-- A character inside a string. -/
def escapeChar (c : Char) : List Char :=
  if c = '"' then ['\\', '"']
  else if c = '\\' then ['\\', '\\']
  else if c = '\n' then ['\\', 'n']
  else if c = '\r' then ['\\', 'r']
  else if c = '\t' then ['\\', 't']
  else if c.toNat = 0x8 then ['\\', 'b']
  else if c.toNat = 0xC then ['\\', 'f']
  else if c.toNat < 0x20 then '\\' :: 'u' :: Text.hex 4 c.toNat
  else [c]

/-- A string between quotes. -/
def stringChars (s : String) : List Char :=
  '"' :: s.toList.flatMap escapeChar ++ ['"']

mutual

/-- The characters of a value. -/
def chars : Json → List Char
  | null => "null".toList
  | bool true => "true".toList
  | bool false => "false".toList
  | int i => Decimal.intChars i
  | real x => Style.json.chars x
  | string s => stringChars s
  | array [] => ['[', ']']
  | array (x :: xs) => '[' :: chars x ++ elementsTail xs
  | object [] => ['\x7b', '\x7d']
  | object ((k, v) :: ms) => '\x7b' :: stringChars k ++ ':' :: ' ' :: chars v ++ membersTail ms

/-- The elements after the first one, and the end of the array. -/
def elementsTail : List Json → List Char
  | [] => [']']
  | x :: xs => ',' :: ' ' :: chars x ++ elementsTail xs

/-- The members after the first one, and the end of the object. -/
def membersTail : List (String × Json) → List Char
  | [] => ['\x7d']
  | (k, v) :: ms => ',' :: ' ' :: stringChars k ++ ':' :: ' ' :: chars v ++ membersTail ms

end

/-- The text of a value. -/
def text (j : Json) : String := String.ofList j.chars

end Json

end Quadratic
