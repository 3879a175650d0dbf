/-
Quadratic.Log.Template.Error — why a template cannot be filled in.

Every way to fail is a constructor that keeps what its message names:
the key that is missing, the conversion and its place, or the type of
the value that does not suit it.

`surrogate` is no failure of a template, but a limit of texts as they are
here: half of a surrogate pair is a code point and no character, and a
text that has one in it lies outside of what is described.
-/
import Quadratic.Text.Quoted
import Quadratic.Value.Text

namespace Quadratic.Log

/-- Why a template cannot be filled in. -/
inductive TemplateError
  | incomplete
  | incompleteKey
  | mappingRequired
  | keyMissing (key : String)
  | tooFewArguments
  | tooManyArguments
  | starNeedsInteger
  | starTooWide
  | starTooPrecise
  | indexNotInteger
  | widthTooBig
  | precisionTooBig
  | unsupported (conversion : Char) (index : Nat)
  | notANumber (conversion : Char) (typeName : String)
  | notAnInteger (conversion : Char) (typeName : String)
  | notReal (typeName : String)
  | integerTooLarge
  | integerOfNan
  | integerOfInfinity
  | notACharacter
  | characterOutOfRange
  | surrogate (codePoint : Int)
  | tooPrecise
  | tooLong
  | text (error : TextError)
deriving DecidableEq

namespace TemplateError

/-- What kind of error it is. -/
def kind : TemplateError → String
  | incomplete | incompleteKey | widthTooBig | precisionTooBig | unsupported _ _
  | integerOfNan => "ValueError"
  | keyMissing _ => "KeyError"
  | integerTooLarge | integerOfInfinity | characterOutOfRange | starTooWide | starTooPrecise
  | tooPrecise => "OverflowError"
  | tooLong => "MemoryError"
  | mappingRequired | tooFewArguments | tooManyArguments | starNeedsInteger | indexNotInteger
  | notANumber _ _ | notAnInteger _ _ | notReal _ | notACharacter => "TypeError"
  | surrogate _ => "UnicodeError"
  | text e => e.kind

/-- The message of an error. -/
def message : TemplateError → String
  | incomplete => "incomplete format"
  | incompleteKey => "incomplete format key"
  | mappingRequired => "format requires a mapping"
  | keyMissing k => Text.quoted k
  | tooFewArguments => "not enough arguments for format string"
  | tooManyArguments => "not all arguments converted during string formatting"
  | starNeedsInteger => "* wants int"
  | starTooWide => "Python int too large to convert to C ssize_t"
  | starTooPrecise => "Python int too large to convert to C int"
  | indexNotInteger => "list indices must be integers or slices, not str"
  | widthTooBig => "width too big"
  | precisionTooBig => "precision too big"
  | unsupported c i =>
      let shown := if 31 ≤ c.toNat ∧ c.toNat ≤ 126 then c else '?'
      "unsupported format character '" ++ shown.toString ++ "' (0x" ++
        String.ofList (Nat.toDigits 16 c.toNat) ++ ") at index " ++ toString i
  | notANumber c t => "%" ++ c.toString ++ " format: a real number is required, not " ++ t
  | notAnInteger c t => "%" ++ c.toString ++ " format: an integer is required, not " ++ t
  | notReal t => "must be real number, not " ++ t
  | integerTooLarge => "int too large to convert to float"
  | integerOfNan => "cannot convert float NaN to integer"
  | integerOfInfinity => "cannot convert float infinity to integer"
  | notACharacter => "%c requires int or char"
  | characterOutOfRange => "%c arg not in range(0x110000)"
  | surrogate i => "half of a surrogate pair: " ++ toString i
  | tooPrecise => "precision too large"
  | tooLong => ""
  | text e => e.message

end TemplateError

end Quadratic.Log
