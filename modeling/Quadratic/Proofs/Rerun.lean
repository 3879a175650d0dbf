/-
Quadratic.Proofs.Rerun — what a run has printed can be typed in again.

The equation of a report holds the coefficients as numbers that the
console reads. Taken from the transcript and typed in, in any layout, they
lead to the same evaluation, and so to the same report.

The numbers are found in the transcript by what is on the screen: the line
that begins with `Equation: `, cut at the characters that the equation
adds to them (`printedNumbers?`). None of those characters is in a number,
and no line above the report begins in that way, whatever was refused.

* `lines_transcript` — the lines of a whole transcript.
* `numbersOf_equation` — an equation gives back the three texts it was
  made from.
* `run_of_printed_numbers` — the second run.
-/
import Quadratic.Proofs.Report
import Quadratic.Proofs.Transcript

namespace Quadratic

open Binary64

/-! ## 1. The numbers of an equation -/

/-- The characters of an equation that belong to none of its numbers. -/
def isEquationMark (c : Char) : Bool := c = ' ' || c = '+' || c = 'x' || c = '²'

/-- The numbers of an equation as they are written. -/
def numbersOf (equation : String) : List String :=
  (Text.runsFrom isEquationMark [] equation.toList).map String.ofList

theorem isEquationMark_of_isDigit {c : Char} (hc : c.isDigit = true) :
    isEquationMark c = false := by
  simp only [isEquationMark, Bool.or_eq_false_iff, decide_eq_false_iff_not]
  refine ⟨⟨⟨?_, ?_⟩, ?_⟩, ?_⟩
  all_goals
    rintro rfl
    exact absurd hc (by decide)

theorem chars_report_ne_nil (x : Binary64) : Style.report.chars x ≠ [] := by
  cases x with
  | nan => decide
  | infinity s => cases s <;> decide
  | finite s k => exact Console.report_ne_nil s k

/-- The numbers of an equation are the texts of its coefficients. -/
theorem numbersOf_equation (q : Coefficients) :
    numbersOf q.equation =
      [Style.report.text q.a, Style.report.text q.b, Style.report.text q.c] := by
  have hword := report_not_mem (fun _ => isEquationMark_of_isDigit) rfl rfl rfl (by decide)
  have hsquare : ∀ c ∈ "x² + ".toList, isEquationMark c = true := by decide
  have hlinear : ∀ c ∈ "x + ".toList, isEquationMark c = true := by decide
  have hshape : q.equation.toList =
      Style.report.chars q.a ++ ("x² + ".toList ++
        (Style.report.chars q.b ++ ("x + ".toList ++ Style.report.chars q.c))) := by
    simp only [Coefficients.equation, String.toList_append, toList_text, List.append_assoc]
  rw [numbersOf, hshape,
    Text.runsFrom_word_append (chars_report_ne_nil q.a) (hword q.a) (by decide) hsquare,
    Text.runsFrom_word_append (chars_report_ne_nil q.b) (hword q.b) (by decide) hlinear,
    Text.runsFrom_word_eq_singleton (chars_report_ne_nil q.c) (hword q.c)]
  rfl

/-! ## 2. The lines of a transcript -/

namespace Console

theorem oneLine_retries (n : Nat) : Text.OneLine (retries n) := by
  induction n with
  | zero => decide
  | succ n ih =>
    rw [retries_succ]
    exact Text.OneLine.append (by decide) ih

/-- The prompts of a run with three numbers; they share a line. -/
def threePrompts (x y z : Attempt) : String :=
  asked "a" x.refused ++ asked "b" y.refused ++ asked "c" z.refused

theorem oneLine_threePrompts (x y z : Attempt) : Text.OneLine (threePrompts x y z) := by
  have hasked : ∀ name ∈ coefficientNames, ∀ us, Text.OneLine (asked name us) := by
    intro name hname us
    refine Text.OneLine.append ?_ (oneLine_retries _)
    exact (by decide : ∀ name ∈ coefficientNames, Text.OneLine (prompt name)) name hname
  exact ((hasked "a" (by decide) _).append (hasked "b" (by decide) _)).append
    (hasked "c" (by decide) _)

/-- A transcript has three lines, and then those of the report. -/
theorem lines_transcript (x y z : Attempt) (e : Evaluation) :
    Text.lines (opening ++ threePrompts x y z ++ e.report) =
      title :: header :: threePrompts x y z :: Text.lines e.report := by
  have htitle : title ≠ "" ∧ Text.OneLine title := by decide
  have hheader : header ≠ "" ∧ Text.OneLine header := by decide
  have hprompts : threePrompts x y z ≠ "" := by
    have ha : prompt "a" ≠ "" := by decide
    rw [threePrompts, asked, String.append_assoc, String.append_assoc]
    exact fun h => ha (String.append_eq_empty_iff.mp h).1
  have hshape : opening ++ threePrompts x y z ++ e.report =
      title ++ ("\n" ++ (header ++ ("\n" ++ (threePrompts x y z ++ ("\n" ++ e.results))))) := by
    rw [e.report_eq]
    simp only [opening, String.append_assoc]
  rw [hshape, Text.lines_cons htitle.1 htitle.2, Text.lines_cons hheader.1 hheader.2,
    Text.lines_cons hprompts (oneLine_threePrompts x y z), e.report_eq,
    Text.lines_newline]

/-- The numbers printed in a transcript. -/
def printedNumbers? (transcript : String) : Option (List String) :=
  (Text.entry? "Equation: " transcript).map numbersOf

/-- They are the texts of the coefficients. -/
theorem printedNumbers?_transcript (x y z : Attempt) (e : Evaluation) :
    printedNumbers? (opening ++ threePrompts x y z ++ e.report) =
      some [Style.report.text e.coefficients.a, Style.report.text e.coefficients.b,
        Style.report.text e.coefficients.c] := by
  have htitle : Text.afterLabel? "Equation: " title = none := by decide
  have hheader : Text.afterLabel? "Equation: " header = none := by decide
  have hprompts : Text.afterLabel? "Equation: " (threePrompts x y z) = none := by
    rw [threePrompts, asked, String.append_assoc, String.append_assoc]
    exact Text.afterLabel?_eq_none (by decide) (by decide) _
  have hreport := e.entry?_equation_report
  rw [Text.entry?] at hreport
  rw [printedNumbers?, Text.entry?, lines_transcript, List.findSome?_cons, htitle,
    List.findSome?_cons, hheader, List.findSome?_cons, hprompts, hreport, Option.map_some,
    numbersOf_equation]

/-! ## 3. The second run -/

/-- Nothing but white space. -/
def IsGap (ws : List Char) : Prop := ∀ c ∈ ws, Text.isSpace c = true

/-- Three texts, typed in with white space between them, and perhaps around
them. -/
inductive TypedIn (a b c : String) : List Char → Prop
  | intro {before ab bc after : List Char} (hbefore : IsGap before) (hab : IsGap ab)
      (hab' : ab ≠ []) (hbc : IsGap bc) (hbc' : bc ≠ []) (hafter : IsGap after) :
      TypedIn a b c
        (before ++ (a.toList ++ (ab ++ (b.toList ++ (bc ++ (c.toList ++ after))))))

/-- Numbers that are typed in are the tokens of the input. -/
theorem tokens_of_typedIn {a b c : Binary64} {input : List Char}
    (h : TypedIn (Style.report.text a) (Style.report.text b) (Style.report.text c) input) :
    Text.tokens input = [Style.report.text a, Style.report.text b, Style.report.text c] := by
  have hword := report_not_mem (fun _ => Decimal.isSpace_of_isDigit) rfl rfl rfl (by decide)
  obtain ⟨hbefore, hab, hab', hbc, hbc', hafter⟩ := h
  rw [Text.tokens, Text.runsFrom_class_append hbefore, toList_text, toList_text, toList_text,
    Text.runsFrom_word_append (chars_report_ne_nil a) (hword a) hab' hab,
    Text.runsFrom_word_append (chars_report_ne_nil b) (hword b) hbc' hbc,
    Text.runsFrom_word_class (chars_report_ne_nil c) (hword c) hafter]
  rfl

theorem asked_nil (name : String) : asked name [] = prompt name := by
  rw [asked, List.length_nil, retries, List.replicate_zero, String.join_nil, String.append_empty]

theorem numberOf_text_of_isFinite {x : Binary64} (hx : x.isFinite = true) :
    numberOf (Style.report.text x) = .ok x := by
  obtain ⟨s, k, rfl⟩ := exists_of_isFinite hx
  exact numberOf_text s k

theorem not_accepted_nil : ∀ t ∈ ([] : List String), isAccepted t = false := by simp

/-- The text of a finite number as an attempt at its first try. -/
def firstTry (x : Binary64) (hx : x.isFinite = true) : Attempt where
  refused := []
  token := Style.report.text x
  value := x
  not_accepted := not_accepted_nil
  numberOf_token := numberOf_text_of_isFinite hx

/-- A run on the texts of three finite numbers. -/
theorem run_of_texts {a b c : Binary64} (ha : a.isFinite = true) (hb : b.isFinite = true)
    (hc : c.isFinite = true) {input : List Char}
    (h : Text.tokens input = [Style.report.text a, Style.report.text b, Style.report.text c]) :
    (run input).value = some (Evaluation.of ⟨a, b, c⟩) ∧
      (run input).written =
        opening ++ prompt "a" ++ prompt "b" ++ prompt "c" ++
          (Evaluation.of ⟨a, b, c⟩).report := by
  let s : Sorting (Text.tokens input) :=
    ⟨[firstTry a ha, firstTry b hb, firstTry c hc], [], by simp, h.symm⟩
  obtain ⟨hvalue, hwritten⟩ := run_of_three s rfl
  refine ⟨hvalue, ?_⟩
  rw [hwritten]
  simp only [firstTry, asked_nil]

theorem Attempt.isFinite_value (x : Attempt) : x.value.isFinite = true :=
  isFinite_of_numberOf x.numberOf_token

/-- What a run has printed can be typed in again. The transcript shows the
three coefficients of its equation as three texts. Typed in again in this
order, with any white space between them, they are accepted at once: the
second run asks no prompt twice, has the same evaluation, bit for bit, and
writes the same results. -/
theorem run_of_printed_numbers {input : List Char} {e : Evaluation}
    (h : (run input).value = some e) :
    ∃ a b c before,
      printedNumbers? (run input).written = some [a, b, c] ∧
      (run input).written = before ++ e.results ∧
      ∀ again : List Char, TypedIn a b c again →
        (run again).value = some e ∧
        (run again).written =
          opening ++ prompt "a" ++ prompt "b" ++ prompt "c" ++ "\n" ++ e.results := by
  obtain ⟨x, y, z, rfl, hwritten⟩ := exists_attempts_of_value h
  have hshape : (run input).written = opening ++ threePrompts x y z ++
      (Evaluation.of ⟨x.value, y.value, z.value⟩).report := by
    rw [hwritten, threePrompts]
    simp only [String.append_assoc]
  refine ⟨Style.report.text x.value, Style.report.text y.value, Style.report.text z.value,
    opening ++ threePrompts x y z ++ "\n", ?_, ?_, ?_⟩
  · rw [hshape]
    exact printedNumbers?_transcript x y z _
  · rw [hshape, Evaluation.report_eq, ← String.append_assoc]
  · intro again hagain
    obtain ⟨hvalue, hwritten'⟩ := run_of_texts x.isFinite_value y.isFinite_value
      z.isFinite_value (tokens_of_typedIn hagain)
    refine ⟨hvalue, ?_⟩
    rw [hwritten', Evaluation.report_eq, ← String.append_assoc]

/-- A run with refused tokens, a number in another script, negative zero,
and a number below the smallest positive one of full precision. -/
def mixed : List Char := "? ٣\n-0 1e-320 7".toList

/-- Its three numbers, each typed in on a line of its own. -/
theorem run_of_mixed_again :
    ∃ e a b c, (run mixed).value = some e ∧
      printedNumbers? (run mixed).written = some [a, b, c] ∧
      (run (a ++ "\n" ++ b ++ "\n" ++ c).toList).value = some e := by
  have hsome : (run mixed).value.isSome = true := by decide +kernel
  obtain ⟨e, he⟩ := Option.isSome_iff_exists.mp hsome
  obtain ⟨a, b, c, before, hprinted, -, hagain⟩ := run_of_printed_numbers he
  refine ⟨e, a, b, c, he, hprinted, ?_⟩
  have hlines : IsGap "\n".toList := by
    show ∀ c ∈ "\n".toList, Text.isSpace c = true
    decide
  have hnone : IsGap [] := fun c hc => by cases hc
  have htyped := TypedIn.intro hnone hlines (by decide) hlines (by decide) hnone
    (a := a) (b := b) (c := c)
  have hinput : (a ++ "\n" ++ b ++ "\n" ++ c).toList =
      [] ++ (a.toList ++ ("\n".toList ++ (b.toList ++ ("\n".toList ++ (c.toList ++ []))))) := by
    simp only [String.toList_append, List.append_assoc, List.nil_append, List.append_nil]
  rw [hinput]
  exact (hagain _ htyped).1

end Console

end Quadratic
