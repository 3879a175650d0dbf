/-
Quadratic.Proofs.Unambiguous — an equation, and the line of details that
an evaluation is logged with, can stand for one equation only.

A text that a decoder gives the coefficients back from belongs to one
triple of coefficients. For an equation the decoder is `numbersOf`, and
then the reader of strings; the details begin with the discriminant and
end with a name, so their numbers are found among the words of the line
(`numbersOfDetails`). Neither text is taken apart from the front: that a
numeral does not hold a character of its surroundings is used once for
each, in the lemma about its decoder.

* `toBits_injective` — numbers with one encoding are one number.
* `text_injective` — different numbers have different texts.
* `numbersOfDetails_details` — the details give back the three texts that
  the equation was made from.
-/
import Quadratic.Proofs.Agreement
import Quadratic.Proofs.Rerun

namespace Quadratic

/-! ## 1. Encodings and texts of numbers -/

namespace Binary64

/-- The number that a number's encoding encodes. -/
theorem ofBits_toBits (x : Binary64) : ofBits x.toBits = x := by
  cases x with
  | nan => decide
  | infinity s => cases s <;> decide
  | finite s k =>
    have hk : (k : Nat) < 2 ^ 63 := k.isLt.trans (by decide)
    have hrank : (signBit s + k) % 2 ^ 63 = k := by cases s <;> simp only [signBit] <;> omega
    have hword : (toBits (finite s k)).toNat = signBit s + k := by
      rw [toBits, UInt64.toNat_ofNat', Nat.mod_eq_of_lt]
      cases s <;> simp only [signBit] <;> omega
    have hsign : (if signBit s + (k : Nat) < 2 ^ 63 then Sign.plus else Sign.minus) = s := by
      cases s <;> simp only [signBit]
      · exact if_pos (by omega)
      · exact if_neg (by omega)
    unfold ofBits
    simp only [hword, hrank, hsign, dif_pos k.isLt]

/-- Numbers are equal if their encodings are, bit for bit. -/
theorem toBits_injective : Function.Injective toBits :=
  Function.LeftInverse.injective ofBits_toBits

end Binary64

/-- Different numbers have different texts. -/
theorem text_injective : Function.Injective Style.report.text := by
  intro x y h
  have hread := congrArg Coefficients.ofString? h
  rwa [Coefficients.ofString?_text, Coefficients.ofString?_text, Option.some_inj] at hread

/-! ## 2. Equations -/

namespace Coefficients

/-- The texts of the coefficients. -/
def texts (q : Coefficients) : List String :=
  [Style.report.text q.a, Style.report.text q.b, Style.report.text q.c]

theorem texts_injective : Function.Injective texts := by
  intro p q h
  rw [texts, texts, List.cons.injEq, List.cons.injEq, List.cons.injEq] at h
  obtain ⟨ha, hb, hc, -⟩ := h
  rw [Coefficients.mk.injEq]
  exact ⟨text_injective ha, text_injective hb, text_injective hc⟩

theorem equation_injective : Function.Injective equation := by
  intro p q h
  have hnumbers : numbersOf p.equation = numbersOf q.equation := congrArg numbersOf h
  rw [numbersOf_equation, numbersOf_equation] at hnumbers
  exact texts_injective hnumbers

/-- Bit for bit the same, in every place; NaN has the one encoding that
`toBits` gives it. -/
def SameBits (p q : Coefficients) : Prop :=
  p.a.toBits = q.a.toBits ∧ p.b.toBits = q.b.toBits ∧ p.c.toBits = q.c.toBits

theorem sameBits_iff {p q : Coefficients} : p.SameBits q ↔ p = q := by
  constructor
  · rintro ⟨ha, hb, hc⟩
    rw [Coefficients.mk.injEq]
    exact ⟨Binary64.toBits_injective ha, Binary64.toBits_injective hb,
      Binary64.toBits_injective hc⟩
  · rintro rfl
    exact ⟨rfl, rfl, rfl⟩

end Coefficients

/-! ## 3. Details -/

/-- The characters that part the words of a line of details. -/
def isDetailsMark (c : Char) : Bool := isEquationMark c || c = ':'

/-- The numbers of the equation in a line of details: they are behind the
discriminant and the word `for`. -/
def numbersOfDetails (details : String) : List String :=
  (((Text.runsFrom isDetailsMark [] details.toList).drop 2).take 3).map String.ofList

theorem isDetailsMark_of_isDigit {c : Char} (hc : c.isDigit = true) :
    isDetailsMark c = false := by
  rw [isDetailsMark, isEquationMark_of_isDigit hc, Bool.false_or, decide_eq_false_iff_not]
  rintro rfl
  exact absurd hc (by decide)

/-- A word with one of the gaps of the details behind it is a run of its
own. -/
theorem runsFrom_detailsWord {w sep : List Char} (hne : w ≠ [])
    (hw : ∀ c ∈ w, isDetailsMark c = false)
    (hsep : sep ∈ [" ", "x² + ", "x + ", ": "].map String.toList) (rest : List Char) :
    Text.runsFrom isDetailsMark [] (w ++ (sep ++ rest)) =
      w :: Text.runsFrom isDetailsMark [] rest := by
  have hmarks : ∀ sep ∈ [" ", "x² + ", "x + ", ": "].map String.toList,
      sep ≠ [] ∧ ∀ c ∈ sep, isDetailsMark c = true := by decide
  obtain ⟨hsepne, hclass⟩ := hmarks sep hsep
  exact Text.runsFrom_word_append hne hw hsepne hclass rest

/-- The words of a line of details are the label with the discriminant,
`for`, the three numbers, and those of the name. -/
theorem numbersOfDetails_details (e : Evaluation) :
    numbersOfDetails e.details = e.coefficients.texts := by
  have hword := report_not_mem (fun _ => isDetailsMark_of_isDigit) rfl rfl rfl (by decide)
  have hlabel : ∀ c ∈ "D=".toList ++ Style.report.chars e.discriminant,
      isDetailsMark c = false := by
    rw [List.forall_mem_append]
    exact ⟨by decide, hword e.discriminant⟩
  have hlabelne : "D=".toList ++ Style.report.chars e.discriminant ≠ [] :=
    List.append_ne_nil_of_left_ne_nil (by decide) _
  have hfor : " for ".toList = " ".toList ++ ("for".toList ++ " ".toList) := rfl
  have hshape : e.details.toList =
      ("D=".toList ++ Style.report.chars e.discriminant) ++ (" ".toList ++
        ("for".toList ++ (" ".toList ++
          (Style.report.chars e.coefficients.a ++ ("x² + ".toList ++
            (Style.report.chars e.coefficients.b ++ ("x + ".toList ++
              (Style.report.chars e.coefficients.c ++ (": ".toList ++
                e.rootCount.name.toList))))))))) := by
    simp only [Evaluation.details, Coefficients.equation, String.toList_append, toList_text, hfor,
      List.append_assoc]
  rw [numbersOfDetails, hshape, runsFrom_detailsWord hlabelne hlabel (by decide),
    runsFrom_detailsWord (by decide) (by decide) (by decide),
    runsFrom_detailsWord (chars_report_ne_nil _) (hword _) (by decide),
    runsFrom_detailsWord (chars_report_ne_nil _) (hword _) (by decide),
    runsFrom_detailsWord (chars_report_ne_nil _) (hword _) (by decide)]
  rfl

theorem Evaluation.coefficients_of_details_eq {e f : Evaluation} (h : e.details = f.details) :
    e.coefficients = f.coefficients := by
  have hnumbers : numbersOfDetails e.details = numbersOfDetails f.details :=
    congrArg numbersOfDetails h
  rw [numbersOfDetails_details, numbersOfDetails_details] at hnumbers
  exact Coefficients.texts_injective hnumbers

/-! ## 4. What the texts stand for -/

/-- Whatever the coefficients are, NaN, the infinities and zeros of both
signs included: their equations have one text only if the coefficients
are the same bit for bit, and so have the details of their evaluations. -/
theorem Coefficients.equation_and_details_unambiguous (p q : Coefficients) :
    (p.equation = q.equation ↔ p.SameBits q) ∧
      ((Evaluation.of p).details = (Evaluation.of q).details ↔ p.SameBits q) := by
  rw [sameBits_iff]
  refine ⟨equation_injective.eq_iff, fun h => ?_, ?_⟩
  · exact Evaluation.coefficients_of_details_eq h
  · rintro rfl
    rfl

end Quadratic
