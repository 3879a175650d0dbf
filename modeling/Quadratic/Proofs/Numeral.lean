/-
Quadratic.Proofs.Numeral — the texts that numbers are written as, and how
they are scanned.

A `Numeral` is the common form of all layouts of a report: digits on both
sides of a point, and perhaps a power of ten. Its value is an exact
rational number.

* `exists_numeral_positional`, `exists_numeral_scientific` — whatever the
  layout, the text is a numeral with the value of the digits that were
  laid out. Zeros that fill up change nothing.
* `spells_numeral`, `scan_numeral` — a numeral is a literal of the grammar,
  and the literal has the value of the numeral. This holds for every
  reader that knows the ten ASCII digits (`ReadsAscii`), and both readers
  of the calculator do.
-/
import Mathlib.Algebra.Order.Field.Rat
import Mathlib.Tactic.FieldSimp
import Mathlib.Tactic.Ring
import Quadratic.Decimal.Style
import Quadratic.Proofs.Grammar
import Quadratic.Text.Space

namespace Quadratic.Decimal

/-! ## 1. Numerals -/

/-- Nothing but ASCII digits. -/
def AllDigits (cs : List Char) : Prop := ∀ c ∈ cs, c.isDigit = true

/-- Digits on both sides of a point, and perhaps a power of ten. -/
structure Numeral where
  whole : List Char
  fraction : List Char
  exponent : Option Int
  whole_ne_nil : whole ≠ []
  whole_digits : AllDigits whole
  fraction_digits : AllDigits fraction

namespace Numeral

/-- The power of ten, as it is written. -/
def exponentChars : Option Int → List Char
  | none => []
  | some e => 'E' :: intChars e

/-- The text of a numeral. -/
def chars (n : Numeral) : List Char :=
  n.whole ++ '.' :: n.fraction ++ exponentChars n.exponent

/-- The exact value of a numeral. -/
def value (n : Numeral) : ℚ :=
  Nat.ofDigitChars 10 (n.whole ++ n.fraction) 0 *
    10 ^ (n.exponent.getD 0 - n.fraction.length)

/-- A numeral without a power of ten, laid out from digits: there are
digits behind the point, and the whole part is a lone zero or begins as
the digits do. -/
structure IsPlain (n : Numeral) (ds : List Char) : Prop where
  exponent_eq : n.exponent = none
  fraction_ne_nil : n.fraction ≠ []
  whole_begins : n.whole = ['0'] ∨ n.whole.head? = ds.head?

end Numeral

/-! ## 2. Digits -/

theorem allDigits_toDigits (n : Nat) : AllDigits (Nat.toDigits 10 n) :=
  fun _ hc => Nat.isDigit_of_mem_toDigits (by omega) (by omega) hc

theorem allDigits_zeroChars (n : Nat) : AllDigits (zeroChars n) := by
  intro c hc
  rw [List.eq_of_mem_replicate hc]
  rfl

theorem allDigits_zero : AllDigits ['0'] := allDigits_zeroChars 1

theorem AllDigits.append {cs ds : List Char} (hcs : AllDigits cs) (hds : AllDigits ds) :
    AllDigits (cs ++ ds) := by
  intro c hc
  rcases List.mem_append.mp hc with hc | hc
  · exact hcs c hc
  · exact hds c hc

theorem digitChar_ne_zero {d : Nat} (hd : d < 10) (hne : d ≠ 0) : d.digitChar ≠ '0' := by
  have hdigit : ∀ d < 10, d ≠ 0 → d.digitChar ≠ '0' := by decide
  exact hdigit d hd hne

/-- An integer is its sign and its absolute value. -/
theorem ofInt_apply_natAbs (e : Int) : (Sign.ofInt e).apply e.natAbs = e := by
  unfold Sign.ofInt
  split <;> rw [Sign.apply] <;> omega

theorem intChars_eq (e : Int) : intChars e = signChars (.ofInt e) ++ Nat.toDigits 10 e.natAbs := by
  unfold intChars Sign.ofInt
  split <;> rfl

/-- The digits of a number that is not zero do not begin with one. -/
theorem head?_toDigits {n : Nat} (hn : n ≠ 0) : (Nat.toDigits 10 n).head? ≠ some '0' := by
  induction n using Nat.strongRecOn with
  | ind n ih =>
    by_cases hlt : n < 10
    · rw [Nat.toDigits_of_lt_base hlt]
      simpa using digitChar_ne_zero hlt hn
    · rw [Nat.toDigits_of_base_le (by omega) (by omega),
        List.head?_append_of_ne_nil _ Nat.toDigits_ne_nil]
      exact ih (n / 10) (by omega) (by omega)

theorem ofDigitChars_zeroChars_append (n : Nat) (ds : List Char) :
    Nat.ofDigitChars 10 (zeroChars n ++ ds) 0 = Nat.ofDigitChars 10 ds 0 := by
  rw [Nat.ofDigitChars_append, zeroChars, Nat.ofDigitChars_replicate_zero, Nat.mul_zero]

theorem ofDigitChars_append_zeroChars (n : Nat) (ds : List Char) :
    Nat.ofDigitChars 10 (ds ++ zeroChars n) 0 = 10 ^ n * Nat.ofDigitChars 10 ds 0 := by
  rw [Nat.ofDigitChars_append, zeroChars, Nat.ofDigitChars_replicate_zero]

/-! ## 3. Layouts -/

section

variable {ds : List Char} (hne : ds ≠ []) (hds : AllDigits ds)

include hne hds

/-- Digits behind the point, after some zeros. -/
theorem exists_numeral_zeros_digits (n : Nat) :
    ∃ m : Numeral, m.chars = '0' :: '.' :: (zeroChars n ++ ds) ∧
      m.value = Nat.ofDigitChars 10 ds 0 * 10 ^ (-(n : Int) - ds.length) ∧ m.IsPlain ds := by
  refine ⟨⟨['0'], zeroChars n ++ ds, none, by simp, allDigits_zero,
    (allDigits_zeroChars n).append hds⟩, ?_, ?_, rfl, by simp [hne], .inl rfl⟩
  · simp [Numeral.chars, Numeral.exponentChars]
  · have hzeros : ['0'] ++ (zeroChars n ++ ds) = zeroChars (n + 1) ++ ds := by
      rw [zeroChars, zeroChars, Nat.add_comm, List.replicate_add, List.append_assoc]
      rfl
    have hexp : (0 : Int) - ((zeroChars n ++ ds).length : Int) = -n - ds.length := by
      rw [List.length_append, zeroChars, List.length_replicate]
      omega
    rw [Numeral.value, hzeros, ofDigitChars_zeroChars_append, Option.getD_none, hexp]

/-- Digits in front of the point, before some zeros. -/
theorem exists_numeral_digits_zeros (n : Nat) :
    ∃ m : Numeral, m.chars = ds ++ zeroChars n ++ ['.', '0'] ∧
      m.value = Nat.ofDigitChars 10 ds 0 * 10 ^ (n : Int) ∧ m.IsPlain ds := by
  refine ⟨⟨ds ++ zeroChars n, ['0'], none, by simp [hne],
    hds.append (allDigits_zeroChars n), allDigits_zero⟩, ?_, ?_, rfl, by simp,
    .inr (List.head?_append_of_ne_nil _ hne)⟩
  · simp [Numeral.chars, Numeral.exponentChars]
  · have hzeros : ds ++ zeroChars n ++ ['0'] = ds ++ zeroChars (n + 1) := by
      rw [zeroChars, zeroChars, List.replicate_add, List.append_assoc]
      rfl
    rw [Numeral.value, hzeros, ofDigitChars_append_zeroChars, Option.getD_none, zpow_natCast,
      List.length_singleton, Nat.cast_one, zero_sub, zpow_neg_one]
    push_cast
    field_simp
    ring

/-- Digits on both sides of the point. -/
theorem exists_numeral_split {n : Nat} (hn : n ≠ 0) (hlen : n < ds.length) :
    ∃ m : Numeral, m.chars = ds.take n ++ '.' :: ds.drop n ∧
      m.value = Nat.ofDigitChars 10 ds 0 * 10 ^ ((n : Int) - ds.length) ∧ m.IsPlain ds := by
  have htake : ds.take n ≠ [] := by
    intro h
    rcases List.take_eq_nil_iff.mp h with h | h
    · exact hn h
    · exact hne h
  have hdrop : ds.drop n ≠ [] := by
    rw [Ne, List.drop_eq_nil_iff]
    omega
  refine ⟨⟨ds.take n, ds.drop n, none, htake, fun c hc => hds c (List.mem_of_mem_take hc),
    fun c hc => hds c (List.mem_of_mem_drop hc)⟩, ?_, ?_, rfl, hdrop,
    .inr (by rw [List.head?_take, if_neg hn])⟩
  · simp [Numeral.chars, Numeral.exponentChars]
  · have hexp : (0 : Int) - ((ds.drop n).length : Int) = n - ds.length := by
      rw [List.length_drop]
      omega
    rw [Numeral.value, List.take_append_drop, Option.getD_none, hexp]

/-- Positional notation keeps the value of the digits. -/
theorem exists_numeral_positional (p : Int) :
    ∃ n : Numeral, n.chars = positional ds p ∧
      n.value = Nat.ofDigitChars 10 ds 0 * 10 ^ (p - ds.length) ∧ n.IsPlain ds := by
  unfold positional
  by_cases hp : p ≤ 0
  · have hneg : -(p.natAbs : Int) = p := by omega
    rw [if_pos hp]
    have h := exists_numeral_zeros_digits hne hds p.natAbs
    rwa [hneg] at h
  · have hpos : (p.toNat : Int) = p := by omega
    rw [if_neg hp]
    by_cases hlen : ds.length ≤ p.toNat
    · have hzeros : ((p.toNat - ds.length : Nat) : Int) = p - ds.length := by omega
      rw [if_pos hlen]
      have h := exists_numeral_digits_zeros hne hds (p.toNat - ds.length)
      rwa [hzeros] at h
    · rw [if_neg hlen]
      have h := exists_numeral_split hne hds (n := p.toNat) (by omega) (by omega)
      rwa [hpos] at h

end

theorem padded_one {cs : List Char} (h : cs ≠ []) : padded 1 cs = cs := by
  have hlen := List.length_pos_iff.mpr h
  rw [padded, Nat.sub_eq_zero_of_le hlen]
  rfl

/-- The exponent of a report is written as an integer. -/
theorem scientific_report (ds : List Char) (p : Int) :
    Style.report.scientific ds p =
      ds.take 1 ++ '.' :: (if ds.tail = [] then ['0'] else ds.tail) ++ 'E' :: intChars (p - 1) := by
  have hint : (if p - 1 < 0 then ['-'] else []) ++
      padded 1 (Nat.toDigits 10 (p - 1).natAbs) = intChars (p - 1) := by
    rw [padded_one Nat.toDigits_ne_nil]
    unfold intChars
    split <;> rfl
  unfold Style.scientific
  dsimp only [Style.report]
  cases htail : ds.tail with
  | nil => simp [← hint]
  | cons c cs => simp [← hint]

/-- So does scientific notation. -/
theorem exists_numeral_scientific {ds : List Char} (hne : ds ≠ []) (hds : AllDigits ds)
    (p : Int) : ∃ n : Numeral, n.chars = Style.report.scientific ds p ∧
      n.value = Nat.ofDigitChars 10 ds 0 * 10 ^ (p - ds.length) := by
  rw [scientific_report]
  obtain ⟨c, cs, rfl⟩ := List.exists_cons_of_ne_nil hne
  have hc : AllDigits [c] := by
    intro d hd
    rw [List.mem_singleton.mp hd]
    exact hds c (List.mem_cons_self ..)
  cases cs with
  | nil =>
    refine ⟨⟨[c], ['0'], some (p - 1), by simp, hc, allDigits_zero⟩, ?_, ?_⟩
    · simp [Numeral.chars, Numeral.exponentChars]
    · have hten : Nat.ofDigitChars 10 ([c] ++ ['0']) 0 = 10 ^ 1 * Nat.ofDigitChars 10 [c] 0 :=
        ofDigitChars_append_zeroChars 1 [c]
      rw [Numeral.value, hten, Option.getD_some, List.length_singleton, List.length_singleton,
        Nat.cast_one, zpow_sub₀ (by norm_num) (p - 1), zpow_one]
      push_cast
      field_simp
  | cons d ds =>
    refine ⟨⟨[c], d :: ds, some (p - 1), by simp, hc,
      fun x hx => hds x (List.mem_cons_of_mem _ hx)⟩, ?_, ?_⟩
    · simp [Numeral.chars, Numeral.exponentChars]
    · have hexp : p - 1 - ((d :: ds).length : Int) = p - (c :: d :: ds).length := by
        simp only [List.length_cons]
        omega
      rw [Numeral.value, Option.getD_some, hexp, List.singleton_append]

/-! ## 4. Scanning -/

/-- A reader of digits that knows those of ASCII. -/
structure ReadsAscii (digit? : Char → Option Nat) : Prop where
  digit : ∀ c, c.isDigit = true → digit? c = some (c.toNat - 48)
  avoidsMarks : AvoidsMarks digit?

theorem isDigit_iff (c : Char) : c.isDigit = true ↔ 48 ≤ c.toNat ∧ c.toNat ≤ 57 := by
  rw [Char.isDigit, Bool.and_eq_true, decide_eq_true_eq, decide_eq_true_eq]
  exact Iff.rfl

theorem readsAscii_digit? : ReadsAscii digit? where
  digit := by
    intro c hc
    obtain ⟨h₁, h₂⟩ := (isDigit_iff c).mp hc
    have hrow : digitOf? 0x30 c = some (c.toNat - 48) := if_pos ⟨h₁, h₂⟩
    rw [digit?, zeros, List.findSome?_cons, hrow]
  avoidsMarks := avoidsMarks_digit?

theorem readsAscii_asciiDigit? : ReadsAscii asciiDigit? where
  digit := by
    intro c hc
    obtain ⟨h₁, h₂⟩ := (isDigit_iff c).mp hc
    exact if_pos ⟨h₁, h₂⟩
  avoidsMarks := avoidsMarks_asciiDigit?

namespace Literal

/-- The values of a row of digits. -/
def digitValues (ds : List Char) : List Nat := ds.map fun c => c.toNat - 48

theorem ofDigits_digitValues (ds : List Char) :
    ofDigits (digitValues ds) = Nat.ofDigitChars 10 ds 0 := by
  rw [ofDigits, digitValues, List.foldl_map, Nat.ofDigitChars_eq_foldl]
  rfl

theorem signText_signChars (s : Sign) : SignText (signChars s) s := by
  cases s with
  | plus => exact .absent
  | minus => exact .minus

section

variable {digit? : Char → Option Nat} (hdigit : ReadsAscii digit?)

include hdigit

theorem row_digitValues {ds : List Char} (hds : AllDigits ds) :
    Row digit? ds (digitValues ds) := by
  rw [digitValues, Row, List.forall₂_map_right_iff, List.forall₂_same]
  exact fun c hc => hdigit.digit c (hds c hc)

/-- The power of ten of a numeral is one of a literal. -/
theorem power_exponentChars (e : Option Int) :
    Power digit? (Numeral.exponentChars e) (e.getD 0) := by
  cases e with
  | none => exact .absent
  | some e =>
    have hrow := row_digitValues hdigit (allDigits_toDigits e.natAbs)
    have h := Power.present (.inr rfl) (signText_signChars (.ofInt e)) Nat.toDigits_ne_nil hrow
    rw [ofDigits_digitValues, Nat.ofDigitChars_ten_toDigits, ofInt_apply_natAbs] at h
    rw [Numeral.exponentChars, Option.getD_some, intChars_eq]
    exact h

/-- A numeral with its sign spells a literal. -/
theorem spells_numeral (s : Sign) (n : Numeral) :
    Spells digit? (signChars s ++ n.chars)
      ⟨s, digitValues n.whole, digitValues n.fraction, n.exponent.getD 0⟩ :=
  .intro (signText_signChars s)
    (.point n.whole_ne_nil (row_digitValues hdigit n.whole_digits)
      (row_digitValues hdigit n.fraction_digits))
    (power_exponentChars hdigit n.exponent)

/-- A numeral is a literal of the same value. -/
theorem scan_numeral (s : Sign) (n : Numeral) :
    ∃ l : Literal, scan digit? (signChars s ++ n.chars) = some l ∧ l.sign = s ∧
      (l.coefficient : ℚ) * 10 ^ l.power = n.value := by
  refine ⟨_, (scan_eq_some_iff hdigit.avoidsMarks).mpr (spells_numeral hdigit s n), rfl, ?_⟩
  have hcoefficient : digitValues n.whole ++ digitValues n.fraction =
      digitValues (n.whole ++ n.fraction) := List.map_append.symm
  have hlength : (digitValues n.fraction).length = n.fraction.length := List.length_map _
  simp only [coefficient, power, hcoefficient, ofDigits_digitValues, hlength, Numeral.value]

end

end Literal

/-! ## 5. Characters -/

/-- The characters that numerals and their signs are made of. -/
def IsNumeralChar (c : Char) : Prop := c.isDigit = true ∨ c = '-' ∨ c = '.' ∨ c = 'E'

theorem isNumeralChar_of_mem_signChars (s : Sign) : ∀ c ∈ signChars s, IsNumeralChar c := by
  intro c hc
  cases s with
  | plus => cases hc
  | minus => exact .inr (.inl (List.mem_singleton.mp hc))

theorem isNumeralChar_of_mem_intChars (e : Int) : ∀ c ∈ intChars e, IsNumeralChar c := by
  intro c hc
  rw [intChars_eq] at hc
  rcases List.mem_append.mp hc with hc | hc
  · exact isNumeralChar_of_mem_signChars _ c hc
  · exact .inl (allDigits_toDigits e.natAbs c hc)

theorem isNumeralChar_of_mem_exponentChars (e : Option Int) :
    ∀ c ∈ Numeral.exponentChars e, IsNumeralChar c := by
  intro c hc
  cases e with
  | none => cases hc
  | some e =>
    rcases List.mem_cons.mp hc with hc | hc
    · exact .inr (.inr (.inr hc))
    · exact isNumeralChar_of_mem_intChars e c hc

theorem isNumeralChar_of_mem_numeral (s : Sign) (n : Numeral) :
    ∀ c ∈ signChars s ++ n.chars, IsNumeralChar c := by
  intro c hc
  simp only [Numeral.chars, List.mem_append, List.mem_cons] at hc
  rcases hc with hc | (hc | hc | hc) | hc
  · exact isNumeralChar_of_mem_signChars s c hc
  · exact .inl (n.whole_digits c hc)
  · exact .inr (.inr (.inl hc))
  · exact .inl (n.fraction_digits c hc)
  · exact isNumeralChar_of_mem_exponentChars n.exponent c hc

/-- A class of characters that holds no digit, sign, point or letter of a
power of ten holds no character of a numeral. -/
theorem IsNumeralChar.not_mem {p : Char → Bool} (hdigit : ∀ c, c.isDigit = true → p c = false)
    (hminus : p '-' = false) (hpoint : p '.' = false) (hmark : p 'E' = false) {c : Char}
    (hc : IsNumeralChar c) : p c = false := by
  rcases hc with hc | rfl | rfl | rfl
  · exact hdigit c hc
  · exact hminus
  · exact hpoint
  · exact hmark

theorem isSpace_of_isDigit {c : Char} (hc : c.isDigit = true) : Text.isSpace c = false := by
  have h := (isDigit_iff c).mp hc
  simp only [Text.isSpace, Text.isBlank, Bool.or_eq_false_iff, Bool.and_eq_false_iff,
    decide_eq_false_iff_not]
  omega

/-- No character of a numeral is white space. -/
theorem IsNumeralChar.isSpace {c : Char} (hc : IsNumeralChar c) : Text.isSpace c = false :=
  hc.not_mem (fun _ => isSpace_of_isDigit) rfl rfl rfl

end Quadratic.Decimal
