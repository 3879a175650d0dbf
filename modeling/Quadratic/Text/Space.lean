/-
Quadratic.Text.Space — the characters that separate tokens, and how a
text is cut: into lines, and into tokens.

Two classes of white space are in use. Tokens and settings are trimmed
by `isSpace`, which counts the four separators U+001C to U+001F; values
given for a coefficient are trimmed by `isBlank`, which is the property
White_Space and does not.

A line ends with the character U+000A only, and that character belongs
to it. Since it is also white space, cutting a text into tokens and
cutting each of its lines into tokens give the same tokens.
-/

namespace Quadratic.Text

/-! ## 1. Classes -/

/-- The property White_Space. -/
def isBlank (c : Char) : Bool :=
  let n := c.toNat
  n = 0x20 || (0x9 ≤ n && n ≤ 0xD) || n = 0x85 || n = 0xA0 || n = 0x1680 ||
    (0x2000 ≤ n && n ≤ 0x200A) || n = 0x2028 || n = 0x2029 || n = 0x202F ||
    n = 0x205F || n = 0x3000

/-- White space between tokens: White_Space and the four information
separators. -/
def isSpace (c : Char) : Bool :=
  isBlank c || (0x1C ≤ c.toNat && c.toNat ≤ 0x1F)

/-! ## 2. Trimming -/

/-- The text without the characters of a class at either end. -/
def trim (p : Char → Bool) (cs : List Char) : List Char :=
  ((cs.dropWhile p).reverse.dropWhile p).reverse

/-! ## 3. Tokens -/

/-- A token that has ended, if any of its characters were seen. The
characters come last first. -/
def finished : List Char → List (List Char)
  | [] => []
  | cs => [cs.reverse]

/-- The maximal runs outside a class, where `seen` is the start of the
first run, last character first. -/
def runsFrom (p : Char → Bool) (seen : List Char) : List Char → List (List Char)
  | [] => finished seen
  | c :: cs =>
      if p c then finished seen ++ runsFrom p [] cs
      else runsFrom p (c :: seen) cs

/-- The tokens of a text, in order. -/
def tokens (cs : List Char) : List String :=
  (runsFrom isSpace [] cs).map String.ofList

/-! ## 4. Lines -/

/-- The first line with its end, and the text after it. -/
def takeLine : List Char → List Char × List Char
  | [] => ([], [])
  | c :: cs =>
      if c = '\n' then ([c], cs)
      else
        let (line, rest) := takeLine cs
        (c :: line, rest)

/-- A line and the rest make up the text. -/
theorem takeLine_append (cs : List Char) : (takeLine cs).1 ++ (takeLine cs).2 = cs := by
  induction cs with
  | nil => rfl
  | cons c cs ih =>
    by_cases h : c = '\n'
    · simp [takeLine, h]
    · simp [takeLine, h, ih]

/-- A text that is not empty gets shorter with each line. -/
theorem takeLine_rest_length {cs : List Char} (h : cs ≠ []) :
    (takeLine cs).2.length < cs.length := by
  cases cs with
  | nil => exact absurd rfl h
  | cons c cs =>
    by_cases hc : c = '\n'
    · simp [takeLine, hc]
    · have := congrArg List.length (takeLine_append cs)
      simp only [List.length_append] at this
      simp only [takeLine, hc, if_false, List.length_cons]
      omega

/-- There are no more tokens than characters. -/
theorem length_runsFrom_le (p : Char → Bool) (seen cs : List Char) :
    (runsFrom p seen cs).length ≤ (finished seen).length + cs.length := by
  induction cs generalizing seen with
  | nil => simp [runsFrom]
  | cons c cs ih =>
    by_cases hc : p c
    · have := ih []
      simp only [runsFrom, hc, if_true, List.length_append, List.length_cons]
      simp only [finished, List.length_nil] at this
      omega
    · have := ih (c :: seen)
      simp only [runsFrom, hc, List.length_cons]
      simp only [finished, List.length_cons, List.length_nil] at this
      simp
      omega

theorem length_tokens_le (cs : List Char) : (tokens cs).length ≤ cs.length := by
  have := length_runsFrom_le isSpace [] cs
  simpa [tokens, finished] using this

end Quadratic.Text
