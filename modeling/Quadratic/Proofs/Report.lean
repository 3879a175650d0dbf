/-
Quadratic.Proofs.Report — the lines of a report, and that the last two of
them agree.

A report is read here the way a reader of the screen does it: cut into
lines, with what stands after a label. The two lines about the
discriminant come from different places, one from the writer of numbers
and one from comparisons, and could contradict each other in three ways:
a zero with a minus sign, a number that is not zero written as zero, and
a sign that is written but not compared.

* `discriminant_ne_negativeZero` — no rounding path ends in negative zero.
  A square is never negative, and a difference of unequal numbers is at
  least one unit.
* `text_eq_zero_iff`, `text_eq_nan_iff`, `head?_text_eq_minus_iff` — what
  the text of a number shows of the number.
* `report_lines_agree` — the two lines of every report.
-/
import Quadratic.Proofs.Classification
import Quadratic.Proofs.FiniteRange
import Quadratic.Proofs.RoundTrip

namespace Quadratic

/-! ## 1. Lines -/

namespace Text

def isLineEnd (c : Char) : Bool := c = '\n'

/-- The lines of a text, without their ends. Empty lines are left out. -/
def lines (s : String) : List String := (runsFrom isLineEnd [] s.toList).map String.ofList

/-- A text that has no line end in it. -/
def OneLine (s : String) : Prop := ∀ c ∈ s.toList, isLineEnd c = false

instance (s : String) : Decidable (OneLine s) :=
  inferInstanceAs (Decidable (∀ c ∈ s.toList, isLineEnd c = false))

theorem OneLine.append {s t : String} (hs : OneLine s) (ht : OneLine t) : OneLine (s ++ t) := by
  intro c hc
  rw [String.toList_append] at hc
  rcases List.mem_append.mp hc with hc | hc
  · exact hs c hc
  · exact ht c hc

theorem lines_newline (s : String) : lines ("\n" ++ s) = lines s := by
  rw [lines, String.toList_append, runsFrom_class_append (by decide), lines]

theorem lines_cons {l : String} (hne : l ≠ "") (hl : OneLine l) (s : String) :
    lines (l ++ ("\n" ++ s)) = l :: lines s := by
  have hne' : l.toList ≠ [] := fun h => hne (String.toList_eq_nil_iff.mp h)
  have hend : ∀ c ∈ "\n".toList, isLineEnd c = true := by decide
  have hrun := runsFrom_word_append hne' hl (by decide) hend s.toList
  rw [lines, String.toList_append, String.toList_append, hrun, List.map_cons, String.ofList_toList,
    lines]

/-- What stands after a label at the start of a line. -/
def afterLabel? (label l : String) : Option String :=
  (label.toList.isPrefixOf? l.toList).map String.ofList

/-- What stands after a label in the first line that begins with it. -/
def entry? (label s : String) : Option String := (lines s).findSome? (afterLabel? label)

theorem afterLabel?_append (label s : String) : afterLabel? label (label ++ s) = some s := by
  have hprefix : label.toList.isPrefixOf? (label ++ s).toList = some s.toList := by
    rw [List.isPrefixOf?_eq_some_iff_append_eq, String.toList_append]
  rw [afterLabel?, hprefix, Option.map_some, String.ofList_toList]

/-- A line that begins with something else than the label. -/
theorem afterLabel?_eq_none {label start : String} (h : ¬ label.toList <+: start.toList)
    (h' : ¬ start.toList <+: label.toList) (s : String) : afterLabel? label (start ++ s) = none := by
  rw [afterLabel?, Option.map_eq_none_iff, Option.eq_none_iff_forall_ne_some]
  intro r hr
  rw [List.isPrefixOf?_eq_some_iff_append_eq, String.toList_append] at hr
  have hlabel : label.toList <+: start.toList ++ s.toList := ⟨r, hr⟩
  rcases List.prefix_or_prefix_of_prefix hlabel (List.prefix_append ..) with hp | hp
  · exact h hp
  · exact h' hp

end Text

/-! ## 2. The text of a number -/

open Binary64

theorem toList_text (st : Style) (x : Binary64) : (st.text x).toList = st.chars x :=
  String.toList_ofList

theorem text_eq_iff {st : Style} {x : Binary64} {s : String} :
    st.text x = s ↔ st.chars x = s.toList := by
  rw [← String.toList_inj, toList_text]

/-- A class that no character of a numeral and of the names of NaN and
infinity is in holds no character of a report. -/
theorem report_not_mem {p : Char → Bool} (hdigit : ∀ c, c.isDigit = true → p c = false)
    (hminus : p '-' = false) (hpoint : p '.' = false) (hmark : p 'E' = false)
    (hnames : ∀ c ∈ "NaNInfinity".toList, p c = false) (x : Binary64) :
    ∀ c ∈ Style.report.chars x, p c = false := by
  intro c hc
  cases x with
  | nan => exact hnames c (List.mem_append_left "Infinity".toList hc)
  | infinity s =>
    rcases List.mem_append.mp hc with hc | hc
    · exact (Decimal.isNumeralChar_of_mem_signChars s c hc).not_mem hdigit hminus hpoint hmark
    · exact hnames c (List.mem_append_right "NaN".toList hc)
  | finite s k =>
    exact (Console.isNumeralChar_of_mem_report s k c hc).not_mem hdigit hminus hpoint hmark

theorem oneLine_report (x : Binary64) : Text.OneLine (Style.report.text x) := by
  have hdigit : ∀ c : Char, c.isDigit = true → Text.isLineEnd c = false := by
    intro c hc
    rw [Text.isLineEnd, decide_eq_false_iff_not]
    rintro rfl
    cases hc
  intro c hc
  rw [toList_text] at hc
  exact report_not_mem hdigit rfl rfl rfl (by decide) x c hc

/-- The magnitude of a finite number begins with a digit. -/
theorem isDigit_head?_magnitude (k : Fin infinityRank) :
    ∃ c cs, Style.report.magnitude k = c :: cs ∧ c.isDigit = true := by
  obtain ⟨n, hchars, -⟩ := Decimal.exists_numeral_report k
  obtain ⟨c, cs, hwhole⟩ := List.exists_cons_of_ne_nil n.whole_ne_nil
  refine ⟨c, cs ++ '.' :: n.fraction ++ Decimal.Numeral.exponentChars n.exponent, ?_, ?_⟩
  · rw [← hchars, Decimal.Numeral.chars, hwhole]
    rfl
  · exact n.whole_digits c (by rw [hwhole]; exact List.mem_cons_self ..)

/-- Only positive zero is written as zero. -/
theorem text_eq_zero_iff (x : Binary64) : Style.report.text x = "0.0" ↔ x = zero .plus := by
  constructor
  · intro h
    cases x with
    | nan => exact absurd h (by decide)
    | infinity s => exact absurd h (by cases s <;> decide)
    | finite s k =>
      have hread := Console.numberOf_text s k
      have hzero : Console.numberOf "0.0" = .ok (zero .plus) := by decide +kernel
      rw [h, hzero] at hread
      exact (Except.ok.inj hread).symm
  · rintro rfl
    decide

theorem text_eq_nan_iff (x : Binary64) : Style.report.text x = "NaN" ↔ x = nan := by
  constructor
  · intro h
    cases x with
    | nan => rfl
    | infinity s => exact absurd h (by cases s <;> decide)
    | finite s k =>
      obtain ⟨c, cs, hmagnitude, hc⟩ := isDigit_head?_magnitude k
      rw [text_eq_iff, Style.chars, hmagnitude] at h
      cases s with
      | plus =>
        cases h
        cases hc
      | minus => cases h
  · rintro rfl
    decide

/-- A minus sign is written for the numbers that have one. -/
theorem head?_text_eq_minus_iff (x : Binary64) :
    (Style.report.text x).toList.head? = some '-' ↔
      x = infinity .minus ∨ ∃ k, x = finite .minus k := by
  rw [toList_text]
  cases x with
  | nan =>
    constructor
    · intro h
      exact absurd h (by decide)
    · rintro (h | ⟨k, h⟩) <;> cases h
  | infinity s => cases s <;> simp [Style.chars, Decimal.signChars, Style.report]
  | finite s k =>
    obtain ⟨c, cs, hmagnitude, hc⟩ := isDigit_head?_magnitude k
    rw [Style.chars, hmagnitude]
    cases s with
    | plus =>
      simp [Decimal.signChars]
      rintro rfl
      cases hc
    | minus => simp [Decimal.signChars]

/-! ## 3. The discriminant -/

namespace Binary64

/-- A square has no minus sign. -/
theorem sign?_mul_self (x : Binary64) : (x.mul x).sign? ≠ some .minus := by
  intro h
  cases x with
  | nan => cases h
  | infinity s =>
    rw [mul, Sign.mul_self] at h
    cases h
  | finite s j =>
    rw [sign?_mul, Sign.mul_self] at h
    cases h

/-- A difference is negative zero only if the first operand has a minus
sign. -/
theorem exists_minus_of_sub {x y : Binary64} (h : x.sub y = zero .minus) :
    ∃ k, x = finite .minus k := by
  cases x with
  | nan => cases h
  | infinity s =>
    cases y with
    | nan => cases h
    | infinity t =>
      rw [sub] at h
      split at h <;> cases h
    | finite t k => cases h
  | finite s j =>
    cases y with
    | nan => cases h
    | infinity t => cases h
    | finite t k =>
      rw [sub] at h
      split at h
      · cases s with
        | plus => cases t <;> cases h
        | minus => exact ⟨j, rfl⟩
      · rename_i hd
        obtain ⟨r, hr, hpos, hneg⟩ := sign_ofRatio_natAbs hd
        rw [h] at hr
        cases hr
        simp only [Sign.apply] at hpos hneg
        omega

end Binary64

/-- The discriminant is never negative zero. -/
theorem Coefficients.discriminant_ne_negativeZero (q : Coefficients) :
    q.discriminant ≠ zero .minus := by
  intro h
  obtain ⟨k, hk⟩ := exists_minus_of_sub h
  exact sign?_mul_self q.b (hk ▸ rfl)

namespace RootCount

theorem ofDiscriminant_zero (s : Sign) : ofDiscriminant (zero s) = one := by cases s <;> rfl

theorem ofDiscriminant_plus {k : Fin infinityRank} (hk : 0 < k.val) :
    ofDiscriminant (finite .plus k) = two := by
  have hlt : (zero .plus).lt (finite .plus k) = true :=
    decide_eq_true (Int.natCast_pos.mpr hk)
  rw [ofDiscriminant, if_pos hlt]

theorem ofDiscriminant_minus {k : Fin infinityRank} (hk : 0 < k.val) :
    ofDiscriminant (finite .minus k) = none := by
  rw [ofDiscriminant_eq_none_iff (by exact Binary64.noConfusion)]
  exact decide_eq_true (Int.neg_neg_of_pos (Int.natCast_pos.mpr hk))

end RootCount

/-- The text of a discriminant and its root count: zero is one root, and
NaN or a minus sign is none. -/
theorem text_agrees_with_rootCount {d : Binary64} (hd : d ≠ zero .minus) :
    (Style.report.text d = "0.0" ↔ RootCount.ofDiscriminant d = .one) ∧
      (Style.report.text d = "NaN" ∨ (Style.report.text d).toList.head? = some '-' ↔
        RootCount.ofDiscriminant d = .none) := by
  rw [text_eq_zero_iff, text_eq_nan_iff, head?_text_eq_minus_iff]
  cases d with
  | nan =>
    have hcount : RootCount.ofDiscriminant nan = .none := rfl
    simp [hcount, zero]
  | infinity s =>
    cases s with
    | plus =>
      have hcount : RootCount.ofDiscriminant (infinity .plus) = .two := rfl
      simp [hcount, zero]
    | minus =>
      have hcount : RootCount.ofDiscriminant (infinity .minus) = .none := rfl
      simp [hcount, zero]
  | finite s k =>
    rcases Nat.eq_zero_or_pos k.val with hk | hk
    · have hzero : finite s k = zero s := congrArg (finite s) (Fin.ext hk)
      rw [hzero] at hd ⊢
      have hcount := RootCount.ofDiscriminant_zero s
      cases s with
      | plus =>
        rw [hcount]
        simp [zero]
      | minus => exact absurd rfl hd
    · have hne : k ≠ 0 := by
        rintro rfl
        exact Nat.lt_irrefl 0 hk
      cases s with
      | plus => simp [RootCount.ofDiscriminant_plus hk, zero, hne]
      | minus => simp [RootCount.ofDiscriminant_minus hk, zero]

/-! ## 4. The lines of a report -/

theorem Coefficients.oneLine_equation (q : Coefficients) : Text.OneLine q.equation := by
  have hsquare : Text.OneLine "x² + " := by decide
  have hlinear : Text.OneLine "x + " := by decide
  exact ((((oneLine_report q.a).append hsquare).append (oneLine_report q.b)).append
    hlinear).append (oneLine_report q.c)

namespace Evaluation

/-- The four lines of a report. -/
def results (e : Evaluation) : String :=
  resultsHeader ++ ("\n" ++ (("Equation: " ++ e.coefficients.equation) ++ ("\n" ++
    (("Discriminant = " ++ Style.report.text e.discriminant) ++ ("\n" ++
      (e.rootCount.message ++ ("\n" ++ "")))))))

/-- There is an empty line in front of them. -/
theorem report_eq (e : Evaluation) : e.report = "\n" ++ e.results := by
  simp only [report, results, String.append_assoc, String.append_empty]

theorem lines_report (e : Evaluation) :
    Text.lines e.report =
      [resultsHeader, "Equation: " ++ e.coefficients.equation,
        "Discriminant = " ++ Style.report.text e.discriminant, e.rootCount.message] := by
  have hequation : Text.OneLine ("Equation: " ++ e.coefficients.equation) :=
    Text.OneLine.append (by decide) e.coefficients.oneLine_equation
  have hdiscriminant : Text.OneLine ("Discriminant = " ++ Style.report.text e.discriminant) :=
    Text.OneLine.append (by decide) (oneLine_report e.discriminant)
  have hnil : Text.lines "" = [] := by decide
  rw [report_eq, Text.lines_newline, results, Text.lines_cons (by decide) (by decide),
    Text.lines_cons (by simp) hequation, Text.lines_cons (by simp) hdiscriminant,
    Text.lines_cons (by cases e.rootCount <;> decide) (by cases e.rootCount <;> decide), hnil]

theorem getLast?_lines_report (e : Evaluation) :
    (Text.lines e.report).getLast? = some e.rootCount.message := by
  rw [e.lines_report]
  rfl

theorem entry?_equation_report (e : Evaluation) :
    Text.entry? "Equation: " e.report = some e.coefficients.equation := by
  have hheader : Text.afterLabel? "Equation: " resultsHeader = none := by decide
  rw [Text.entry?, lines_report, List.findSome?_cons, hheader, List.findSome?_cons,
    Text.afterLabel?_append]

theorem entry?_discriminant_report (e : Evaluation) :
    Text.entry? "Discriminant = " e.report = some (Style.report.text e.discriminant) := by
  have hheader : Text.afterLabel? "Discriminant = " resultsHeader = none := by decide
  have hequation :
      Text.afterLabel? "Discriminant = " ("Equation: " ++ e.coefficients.equation) = none :=
    Text.afterLabel?_eq_none (by decide) (by decide) _
  rw [Text.entry?, lines_report, List.findSome?_cons, hheader, List.findSome?_cons, hequation,
    List.findSome?_cons, Text.afterLabel?_append]

end Evaluation

theorem RootCount.message_eq_iff (r : RootCount) :
    (r.message = "Two real roots" ↔ r = .two) ∧ (r.message = "One real root" ↔ r = .one) ∧
      (r.message = "No real roots" ↔ r = .none) := by
  cases r <;> decide

/-- The two result lines of a report agree, for any coefficients. The
discriminant is never negative zero. What stands after its label is zero
exactly above the line for one root, NaN or a number with a minus sign
exactly above the line for none, and anything else exactly above the line
for two. The evaluation has the same discriminant and the same root
count, and its one line says what the report says. -/
theorem report_lines_agree (q : Coefficients) :
    let e := Evaluation.of q
    q.discriminant ≠ zero .minus ∧
    ∃ equation t last,
      Text.entry? "Equation: " e.report = some equation ∧
      Text.entry? "Discriminant = " e.report = some t ∧
      (Text.lines e.report).getLast? = some last ∧
      (t = "0.0" ↔ last = "One real root") ∧
      (t = "NaN" ∨ t.toList.head? = some '-' ↔ last = "No real roots") ∧
      (¬ (t = "0.0" ∨ t = "NaN" ∨ t.toList.head? = some '-') ↔ last = "Two real roots") ∧
      equation = q.equation ∧
      e.discriminant = q.discriminant ∧ t = Style.report.text e.discriminant ∧
      e.rootCount = RootCount.ofDiscriminant e.discriminant ∧ last = e.rootCount.message ∧
      e.details = "D=" ++ t ++ " for " ++ equation ++ ": " ++ e.rootCount.name := by
  intro e
  have hd : e.discriminant ≠ zero .minus := q.discriminant_ne_negativeZero
  obtain ⟨hone, hnone⟩ := text_agrees_with_rootCount hd
  obtain ⟨htwo', hone', hnone'⟩ := e.rootCount.message_eq_iff
  have hlast : (Text.lines e.report).getLast? = some e.rootCount.message := by
    rw [e.lines_report]
    rfl
  refine ⟨hd, _, _, _, e.entry?_equation_report, e.entry?_discriminant_report, hlast,
    hone.trans hone'.symm, hnone.trans hnone'.symm, ?_, rfl, rfl, rfl, rfl, rfl, rfl⟩
  have hcount : e.rootCount = RootCount.ofDiscriminant e.discriminant := rfl
  rw [htwo', hone, hnone, hcount]
  cases RootCount.ofDiscriminant e.discriminant <;> decide

end Quadratic
