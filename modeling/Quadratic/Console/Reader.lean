/-
Quadratic.Console.Reader — the interactive reader of coefficients.

The reader takes whole lines from its input and keeps the tokens that it
has not handed out yet. A coefficient is asked for with a prompt; a
token that is refused costs a retry message, and the next one is tried.

Reading is a function from a reader to a `Reading`: the value, if the
input held one, the text written meanwhile, the errors of the refused
tokens in order, and the reader afterwards. When the input ends first
there is no value, and the reader is left with nothing.

A reader gets smaller with every token that it hands out; its size is
the number of tokens kept plus the number of characters not yet read.
-/
import Quadratic.Coefficients
import Quadratic.Console.Token
import Quadratic.Text.Space

namespace Quadratic.Console

/-! ## 1. Tokens from lines -/

/-- A reader: the tokens kept, and the text not yet read. -/
structure Reader where
  pending : List String
  unread : List Char
deriving DecidableEq

namespace Reader

/-- A reader at the start of a text. -/
def start (input : List Char) : Reader := ⟨[], input⟩

/-- A reader that has come to the end of its input. -/
def exhausted : Reader := ⟨[], []⟩

/-- Tokens kept and characters not yet read. -/
def size (r : Reader) : Nat := r.pending.length + r.unread.length

/-- The first token of the text, from the first line that has one; the
other tokens of that line are kept. -/
def fetch (unread : List Char) : Option (String × Reader) :=
  if _h : unread = [] then none
  else
    match Text.tokens (Text.takeLine unread).1 with
    | t :: ts => some (t, ⟨ts, (Text.takeLine unread).2⟩)
    | [] => fetch (Text.takeLine unread).2
termination_by unread.length
decreasing_by exact Text.takeLine_rest_length ‹_›

/-- The next token; nothing if the input has ended. -/
def next? (r : Reader) : Option (String × Reader) :=
  match r.pending with
  | t :: ts => some (t, { r with pending := ts })
  | [] => fetch r.unread

theorem fetch_size {unread : List Char} {t : String} {r : Reader}
    (h : fetch unread = some (t, r)) : r.size < unread.length := by
  fun_induction fetch unread with
  | case1 => simp at h
  | case2 unread hne t' ts ht =>
    simp only [Option.some.injEq, Prod.mk.injEq] at h
    obtain ⟨rfl, rfl⟩ := h
    have hl := Text.length_tokens_le (Text.takeLine unread).1
    have ha := congrArg List.length (Text.takeLine_append unread)
    simp only [ht, List.length_cons] at hl
    simp only [List.length_append] at ha
    simp only [size]
    omega
  | case3 unread hne ht ih =>
    have := ih h
    have := Text.takeLine_rest_length hne
    omega

/-- Every token makes the reader smaller. -/
theorem next?_size {r r' : Reader} {t : String} (h : r.next? = some (t, r')) :
    r'.size < r.size := by
  unfold next? at h
  split at h
  · rename_i ts hp
    simp only [Option.some.injEq, Prod.mk.injEq] at h
    obtain ⟨rfl, rfl⟩ := h
    simp [size, hp]
  · rename_i hp
    have := fetch_size h
    simp only [size, hp, List.length_nil] at this ⊢
    omega

end Reader

/-! ## 2. Readings -/

/-- What the input ends with when it holds too few numbers. -/
def endOfInputMessage : String :=
  "Input stream closed before a valid number was entered"

/-- The line above the prompts. -/
def header : String := "Enter coefficients for quadratic equation ax² + bx + c = 0"

/-- The prompt for the coefficient of a given name. -/
def prompt (name : String) : String := "Enter coefficient " ++ name ++ ": "

/-- The text after a refused token. -/
def retryMessage : String := "Error: please enter a valid number! Try again: "

/-- The outcome of reading. There is no value if the input ended. -/
structure Reading (α : Type) where
  value : Option α
  written : String
  rejected : List TokenError
  rest : Reader

namespace Reading

/-- A reading after some text was written and a token was refused. -/
def afterRetry {α : Type} (e : TokenError) (r : Reading α) : Reading α :=
  { r with written := retryMessage ++ r.written, rejected := e :: r.rejected }

/-- A reading after some text was written. -/
def afterText {α : Type} (text : String) (r : Reading α) : Reading α :=
  { r with written := text ++ r.written }

/-- One reading after another. The second is left out if the first has
no value. -/
def andThen {α β : Type} (r : Reading α) (f : α → Reader → Reading β) : Reading β :=
  match r.value with
  | some x =>
      let s := f x r.rest
      { s with written := r.written ++ s.written, rejected := r.rejected ++ s.rejected }
  | none => { value := none, written := r.written, rejected := r.rejected, rest := r.rest }

end Reading

namespace Reader

/-- The next token, as a reading that writes nothing. -/
def readToken (r : Reader) : Reading String :=
  match r.next? with
  | some (t, r') => { value := some t, written := "", rejected := [], rest := r' }
  | none => { value := none, written := "", rejected := [], rest := exhausted }

/-- The first number among the tokens still to come. -/
def readNumber (r : Reader) : Reading Binary64 :=
  match _h : r.next? with
  | none => { value := none, written := "", rejected := [], rest := exhausted }
  | some (t, r') =>
      match numberOf t with
      | .ok x => { value := some x, written := "", rejected := [], rest := r' }
      | .error e => (r'.readNumber).afterRetry e
termination_by r.size
decreasing_by exact next?_size ‹_›

/-- A coefficient, asked for with a prompt. -/
def readCoefficient (prompt : String) (r : Reader) : Reading Binary64 :=
  r.readNumber.afterText prompt

/-- The three coefficients in order, under the header. -/
def readAll (r : Reader) : Reading Coefficients :=
  ((r.readCoefficient (prompt "a")).andThen fun a r =>
    (r.readCoefficient (prompt "b")).andThen fun b r =>
      (r.readCoefficient (prompt "c")).andThen fun c r =>
        { value := some ⟨a, b, c⟩, written := "", rejected := [], rest := r }).afterText
    (header ++ "\n")

end Reader

end Quadratic.Console
