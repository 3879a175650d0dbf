/-
Quadratic.Proofs.EqualCoefficients — coefficients that compare equal have one
discriminant.

Numbers that compare equal are the same number or two zeros. The sign of a
zero goes through products: it may decide the sign of another zero, but
never that of anything else, so two products of like operands are alike
again. The subtraction ends this. A square has no minus sign, and then the
sign of a zero that is subtracted is lost, also if both operands are zero.

* `Alike` — the same number or two zeros (`alike_iff`).
* `Alike.mul`, `Alike.square`, `Alike.sub` — what the operations make of
  numbers that are alike.
* `Coefficients.equation_eq_iff` — the equation does show the sign of a
  zero.
* `discriminant_respects_equality` — all that is shown of the discriminant
  of equal coefficients.
-/
import Quadratic.Proofs.Operations
import Quadratic.Proofs.Report

namespace Quadratic

namespace Binary64

/-! ## 1. Numbers that compare equal -/

/-- The same number, or two zeros. -/
def Alike (x y : Binary64) : Prop := x = y ∨ ∃ s t, x = zero s ∧ y = zero t

theorem Alike.refl (x : Binary64) : Alike x x := .inl rfl

theorem Alike.trans {x y z : Binary64} (hxy : Alike x y) (hyz : Alike y z) : Alike x z := by
  rcases hxy with rfl | ⟨s, t, rfl, rfl⟩
  · exact hyz
  · rcases hyz with rfl | ⟨-, u, -, rfl⟩
    · exact .inr ⟨s, t, rfl, rfl⟩
    · exact .inr ⟨s, u, rfl, rfl⟩

/-- Ranks with signs are different, unless both are zero. -/
theorem eq_or_zero_of_apply_eq {s t : Sign} {j k : Nat} (h : s.apply j = t.apply k) :
    (s = t ∧ j = k) ∨ (j = 0 ∧ k = 0) := by
  cases s <;> cases t <;> simp only [Sign.apply] at h <;> simp <;> omega

theorem alike_of_numEq {x y : Binary64} (h : x.numEq y = true) : Alike x y := by
  cases x with
  | nan => cases h
  | infinity s =>
    cases y with
    | nan => cases h
    | infinity t =>
      rcases eq_or_zero_of_apply_eq (of_decide_eq_true h) with ⟨rfl, -⟩ | ⟨hzero, -⟩
      · exact .refl _
      · cases hzero
    | finite t k =>
      rcases eq_or_zero_of_apply_eq (of_decide_eq_true h) with ⟨-, hk⟩ | ⟨hzero, -⟩
      · exact absurd hk k.isLt.ne'
      · cases hzero
  | finite s j =>
    cases y with
    | nan => cases h
    | infinity t =>
      rcases eq_or_zero_of_apply_eq (of_decide_eq_true h) with ⟨-, hj⟩ | ⟨-, hzero⟩
      · exact absurd hj j.isLt.ne
      · cases hzero
    | finite t k =>
      rcases eq_or_zero_of_apply_eq (of_decide_eq_true h) with ⟨rfl, hjk⟩ | ⟨hj, hk⟩
      · rw [Fin.ext hjk]
        exact .refl _
      · rw [(finite_eq_zero_iff s j).mpr hj, (finite_eq_zero_iff t k).mpr hk]
        exact .inr ⟨s, t, rfl, rfl⟩

/-- Numbers are alike exactly if they are the same or compare equal. Only NaN is
the same as itself and does not compare equal. -/
theorem alike_iff (x y : Binary64) : Alike x y ↔ x = y ∨ x.numEq y = true := by
  constructor
  · rintro (rfl | ⟨s, t, rfl, rfl⟩)
    · exact .inl rfl
    · cases s <;> cases t <;> exact .inr rfl
  · rintro (rfl | h)
    · exact .refl x
    · exact alike_of_numEq h

/-! ## 2. The operations -/

theorem mul_comm (x y : Binary64) : x.mul y = y.mul x := by
  cases x with
  | nan => cases y <;> rfl
  | infinity s =>
    cases y with
    | nan => rfl
    | infinity t => rw [mul, mul, s.mul_comm]
    | finite t k => rw [mul, mul, s.mul_comm]
  | finite s j =>
    cases y with
    | nan => rfl
    | infinity t => rw [mul, mul, s.mul_comm]
    | finite t k => rw [mul, mul, s.mul_comm, Nat.mul_comm]

/-- A zero times a finite number is zero. -/
theorem zero_mul_finite (s t : Sign) (k : Fin infinityRank) :
    (zero s).mul (finite t k) = zero (s.mul t) := by
  have hexact := ofRatio_units_mul (s.mul t) 0 unitsPerOne_pos
  rw [units_zero, Nat.zero_mul, ofRank_zero] at hexact
  rw [zero, mul, units_zero, Nat.zero_mul, hexact]

theorem Alike.mul_left {x x' : Binary64} (h : Alike x x') (y : Binary64) :
    Alike (x.mul y) (x'.mul y) := by
  rcases h with rfl | ⟨s, t, rfl, rfl⟩
  · exact .refl _
  · cases y with
    | nan | infinity => exact .refl _
    | finite u k =>
      rw [zero_mul_finite, zero_mul_finite]
      exact .inr ⟨_, _, rfl, rfl⟩

theorem Alike.mul {x x' y y' : Binary64} (hx : Alike x x') (hy : Alike y y') :
    Alike (x.mul y) (x'.mul y') := by
  refine (hx.mul_left y).trans ?_
  rw [mul_comm x' y, mul_comm x' y']
  exact hy.mul_left x'

/-- In a square no sign is left. -/
theorem Alike.square {x y : Binary64} (h : Alike x y) : x.mul x = y.mul y := by
  rcases h with rfl | ⟨s, t, rfl, rfl⟩
  · rfl
  · have hzero : ∀ u : Sign, (zero u).mul (zero u) = zero .plus :=
      fun u => u.mul_self ▸ zero_mul_finite u u _
    rw [hzero, hzero]

/-- Zeros are the same to subtract from a number without a minus sign. -/
theorem Alike.sub {x y y' : Binary64} (hx : x.sign? ≠ some .minus) (hy : Alike y y') :
    x.sub y = x.sub y' := by
  rcases hy with rfl | ⟨s, t, rfl, rfl⟩
  · rfl
  · cases x with
    | nan | infinity => rfl
    | finite u k =>
      cases u with
      | minus => exact absurd rfl hx
      | plus =>
        have hunits : ∀ u : Sign, signedUnits u 0 = 0 := by
          intro u
          cases u <;> simp [signedUnits, Sign.apply]
        have hsign : ∀ u : Sign, zeroDifferenceSign .plus u = .plus := by
          intro u
          cases u <;> rfl
        simp only [zero, Binary64.sub, hunits, hsign]

end Binary64

open Binary64

namespace Coefficients

theorem discriminant_congr {p q : Coefficients} (ha : Alike p.a q.a) (hb : Alike p.b q.b)
    (hc : Alike p.c q.c) : p.discriminant = q.discriminant := by
  rw [discriminant, discriminant, hb.square]
  exact (((Alike.refl four).mul ha).mul hc).sub (sign?_mul_self q.b)

/-! ## 3. The equation -/

theorem chars_zero (s : Sign) :
    Style.report.chars (zero s) = Decimal.signChars s ++ "0.0".toList := by
  cases s <;> decide

/-- Of two texts that go on differently behind numbers that are alike. -/
theorem eq_of_chars_append {x y : Binary64} (h : Alike x y) {r r' : List Char}
    (happend : Style.report.chars x ++ r = Style.report.chars y ++ r') : x = y ∧ r = r' := by
  rcases h with rfl | ⟨s, t, rfl, rfl⟩
  · exact ⟨rfl, List.append_cancel_left happend⟩
  · rw [chars_zero, chars_zero] at happend
    -- The texts of the two zeros differ in their first character.
    cases s with
    | plus =>
      cases t with
      | plus => exact ⟨rfl, List.append_cancel_left happend⟩
      | minus => cases happend
    | minus =>
      cases t with
      | plus => cases happend
      | minus => exact ⟨rfl, List.append_cancel_left happend⟩

/-- The equation shows the sign of a zero. -/
theorem equation_eq_iff {p q : Coefficients} (ha : Alike p.a q.a) (hb : Alike p.b q.b)
    (hc : Alike p.c q.c) : p.equation = q.equation ↔ p = q := by
  constructor
  · intro h
    have hchars := congrArg String.toList h
    simp only [equation, String.toList_append, toList_text, List.append_assoc] at hchars
    obtain ⟨ha', hchars⟩ := eq_of_chars_append ha hchars
    obtain ⟨hb', hchars⟩ := eq_of_chars_append hb (List.append_cancel_left hchars)
    have hlast := congrArg (· ++ []) (List.append_cancel_left hchars)
    obtain ⟨hc', -⟩ := eq_of_chars_append hc hlast
    cases p
    cases q
    rw [mk.injEq]
    exact ⟨ha', hb', hc'⟩
  · rintro rfl
    rfl

/-! ## 4. What is shown -/

/-- Coefficients that compare equal have one discriminant, bit for bit. They
compare equal if each of them is the same or compares equal (`alike_iff`): the
same NaN twice will do. So they have one root count, and their reports have the
same two result lines. The lines with the equation are the same only if the
coefficients are, also in the signs of zeros. -/
theorem discriminant_respects_equality {p q : Coefficients} (ha : Alike p.a q.a)
    (hb : Alike p.b q.b) (hc : Alike p.c q.c) :
    let e := Evaluation.of p
    let f := Evaluation.of q
    e.discriminant = f.discriminant ∧ e.rootCount = f.rootCount ∧
    (∃ t, Text.entry? "Discriminant = " e.report = some t ∧
      Text.entry? "Discriminant = " f.report = some t) ∧
    (∃ last, (Text.lines e.report).getLast? = some last ∧
      (Text.lines f.report).getLast? = some last) ∧
    (Text.entry? "Equation: " e.report = Text.entry? "Equation: " f.report ↔ p = q) := by
  intro e f
  have hdiscriminant : p.discriminant = q.discriminant := discriminant_congr ha hb hc
  have hcount : e.rootCount = f.rootCount := congrArg RootCount.ofDiscriminant hdiscriminant
  refine ⟨hdiscriminant, hcount, ⟨_, e.entry?_discriminant_report, ?_⟩,
    ⟨e.rootCount.message, ?_, ?_⟩, ?_⟩
  · rw [f.entry?_discriminant_report]
    exact congrArg (fun d => some (Style.report.text d)) hdiscriminant.symm
  · exact e.getLast?_lines_report
  · rw [hcount, f.getLast?_lines_report]
  · rw [e.entry?_equation_report, f.entry?_equation_report, Option.some_inj]
    exact equation_eq_iff ha hb hc

/-- Two zeros of unlike signs, and a number. -/
def withZeros (s : Sign) : Coefficients := ⟨zero s, zero s.flip, ofInt (-7)⟩

theorem discriminant_respects_equality_withZeros :
    let e := Evaluation.of (withZeros .plus)
    let f := Evaluation.of (withZeros .minus)
    (withZeros .plus).numEq (withZeros .minus) = true ∧ e.discriminant = f.discriminant ∧
      e.rootCount = f.rootCount ∧
      Text.entry? "Discriminant = " e.report = Text.entry? "Discriminant = " f.report ∧
      Text.entry? "Equation: " e.report ≠ Text.entry? "Equation: " f.report := by
  intro e f
  have hequal : (withZeros .plus).numEq (withZeros .minus) = true := by decide +kernel
  have hne : withZeros .plus ≠ withZeros .minus := by decide +kernel
  have hfields := hequal
  rw [numEq, Bool.and_eq_true, Bool.and_eq_true] at hfields
  obtain ⟨⟨ha, hb⟩, hc⟩ := hfields
  obtain ⟨hdiscriminant, hcount, ⟨t, he, hf⟩, -, hequation⟩ := discriminant_respects_equality
    ((alike_iff ..).mpr (.inr ha)) ((alike_iff ..).mpr (.inr hb)) ((alike_iff ..).mpr (.inr hc))
  exact ⟨hequal, hdiscriminant, hcount, he.trans hf.symm, fun h => hne (hequation.mp h)⟩

end Coefficients

end Quadratic
