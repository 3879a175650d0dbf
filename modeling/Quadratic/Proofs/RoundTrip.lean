/-
Quadratic.Proofs.RoundTrip — what the calculator writes for a number, it
reads as that number.

The text of a finite number is a sign and a numeral whose value is the
shortest decimal (`exists_numeral_report`). The value of that decimal is
nearest to the number it was made from, so the one rounding of the reader
ends where it began. Nothing here looks at a layout or at an interval:
the layouts are in `Quadratic.Proofs.Numeral`, the digits in
`Quadratic.Proofs.Shortest`.

* `toBits_ofBits` — the encoding of a number that is not NaN is the word
  it was taken from, so equal numbers are equal bit for bit.
* `scan_report` — every reader of literals that knows the ASCII digits
  reads a report back, with the sign of a zero.
* `numberOf_text_roundTrip` — the same for tokens of the console, and
  what it makes of the text of a number that was typed in.
-/
import Quadratic.Console.Token
import Quadratic.Proofs.Numeral
import Quadratic.Proofs.Shortest
import Quadratic.Proofs.Tokens

namespace Quadratic

/-! ## 1. Words -/

namespace Binary64

/-- A word is the encoding of the number it encodes. -/
theorem toBits_ofBits {w : UInt64} (h : ofBits w ≠ nan) : (ofBits w).toBits = w := by
  have hw := w.toNat_lt
  rw [← UInt64.toNat_inj]
  unfold ofBits at h ⊢
  dsimp only at h ⊢
  by_cases hk : w.toNat % 2 ^ 63 < infinityRank
  · rw [dif_pos hk]
    split <;> simp only [toBits, signBit, UInt64.toNat_ofNat'] <;> omega
  · rw [dif_neg hk] at h ⊢
    by_cases hinf : w.toNat % 2 ^ 63 = infinityRank
    · rw [if_pos hinf]
      split <;> simp only [toBits, signBit, UInt64.toNat_ofNat'] <;> omega
    · rw [if_neg hinf] at h
      exact absurd rfl h

end Binary64

/-! ## 2. Reports as numerals -/

namespace Decimal

open Binary64

theorem digits_ne_nil (d : Decimal) : d.digits ≠ [] := Nat.toDigits_ne_nil

theorem allDigits_digits (d : Decimal) : AllDigits d.digits := allDigits_toDigits d.coefficient

/-- The digits of a decimal, with the point at its place, have the value
of the decimal. -/
theorem value_digits (d : Decimal) :
    (Nat.ofDigitChars 10 d.digits 0 : ℚ) * 10 ^ (d.point - d.digits.length) = d.value := by
  rw [point, add_sub_cancel_left, digits, Nat.ofDigitChars_ten_toDigits, value]

/-- The text of a positive magnitude is a numeral with the value of its
shortest decimal. -/
theorem exists_numeral_shortest {k : Fin infinityRank} (hk : k.val ≠ 0) :
    ∃ n : Numeral, n.chars = Style.report.magnitude k ∧ n.value = (shortest k).value := by
  have hne := digits_ne_nil (shortest k)
  have hdigits := allDigits_digits (shortest k)
  rw [← value_digits]
  unfold Style.magnitude
  rw [if_neg hk]
  dsimp only
  split
  · obtain ⟨n, hchars, hvalue, -⟩ := exists_numeral_positional hne hdigits (shortest k).point
    exact ⟨n, hchars, hvalue⟩
  · exact exists_numeral_scientific hne hdigits (shortest k).point

/-- The text of a magnitude is a numeral, and the magnitude is nearest to
the value of that numeral. -/
theorem exists_numeral_report (k : Fin infinityRank) :
    ∃ n : Numeral, n.chars = Style.report.magnitude k ∧
      IsNearest (n.value * (unitsPerOne : Nat)) k := by
  by_cases hk : k.val = 0
  · refine ⟨⟨['0'], ['0'], none, by simp, allDigits_zero, allDigits_zero⟩, ?_, ?_⟩
    · unfold Style.magnitude
      rw [if_pos hk]
      rfl
    · have hzero : Nat.ofDigitChars 10 (['0'] ++ ['0']) 0 = 0 := rfl
      rw [Numeral.value, hzero, hk, Nat.cast_zero, zero_mul, zero_mul]
      exact isNearest_zero
  · obtain ⟨n, hchars, hvalue⟩ := exists_numeral_shortest hk
    exact ⟨n, hchars, hvalue ▸ shortest_isNearest (Nat.pos_of_ne_zero hk)⟩

/-- The report of a finite number is scanned as a literal that rounds to
the number. -/
theorem scan_report {digit? : Char → Option Nat} (hdigit : ReadsAscii digit?) (s : Sign)
    (k : Fin infinityRank) :
    ∃ l, Literal.scan digit? (Style.report.chars (finite s k)) = some l ∧
      l.toBinary64 = finite s k := by
  obtain ⟨n, hchars, hnearest⟩ := exists_numeral_report k
  obtain ⟨l, hscan, hsign, hvalue⟩ := Literal.scan_numeral hdigit s n
  rw [← hvalue] at hnearest
  refine ⟨l, ?_, ?_⟩
  · rw [Style.chars, ← hchars]
    exact hscan
  · rw [Literal.toBinary64, ofDecimal_of_isNearest l.sign hnearest, ofRank_fin, hsign]

end Decimal

/-! ## 3. Tokens of the console -/

namespace Console

open Binary64

/-- The text of a finite number is a token that spells the number. -/
theorem numberOf_text (s : Sign) (k : Fin infinityRank) :
    numberOf (Style.report.text (finite s k)) = .ok (finite s k) := by
  obtain ⟨l, hscan, hround⟩ := Decimal.scan_report Decimal.readsAscii_digit? s k
  unfold numberOf Style.text
  rw [String.toList_ofList, hscan]
  dsimp only
  rw [hround]
  rfl

theorem isNumeralChar_of_mem_report (s : Sign) (k : Fin infinityRank) :
    ∀ c ∈ Style.report.chars (finite s k), Decimal.IsNumeralChar c := by
  obtain ⟨n, hchars, -⟩ := Decimal.exists_numeral_report k
  rw [Style.chars, ← hchars]
  exact Decimal.isNumeralChar_of_mem_numeral s n

theorem isSpace_of_mem_report (s : Sign) (k : Fin infinityRank) :
    ∀ c ∈ Style.report.chars (finite s k), Text.isSpace c = false :=
  fun c hc => (isNumeralChar_of_mem_report s k c hc).isSpace

theorem report_ne_nil (s : Sign) (k : Fin infinityRank) :
    Style.report.chars (finite s k) ≠ [] := by
  obtain ⟨n, hchars, -⟩ := Decimal.exists_numeral_report k
  rw [Style.chars, ← hchars, Decimal.Numeral.chars]
  simp

/-- What is accepted is finite. -/
theorem isFinite_of_numberOf {t : String} {x : Binary64} (h : numberOf t = .ok x) :
    x.isFinite = true := by
  unfold numberOf at h
  split at h
  · cases h
  · dsimp only at h
    split at h
    · rename_i hfinite
      cases h
      exact hfinite
    · cases h

/-- A token written in the style of a report. -/
def canonical (t : String) : Except TokenError String := (numberOf t).map Style.report.text

/-- Writing a finite number and reading it back. The text of the number
of any finite word is one token without white space, it is accepted, and
what it spells has the same word again. So a token that is accepted can
be rewritten in the style of a report, and a second rewriting changes
nothing. -/
theorem numberOf_text_roundTrip :
    (∀ w : UInt64, (ofBits w).isFinite = true →
      let t := Style.report.text (ofBits w)
      t ≠ "" ∧ (∀ c ∈ t.toList, Text.isSpace c = false) ∧ Text.tokens t.toList = [t] ∧
        ∃ x, numberOf t = .ok x ∧ x = ofBits w ∧ x.toBits = w) ∧
    (∀ t x, numberOf t = .ok x →
      ∃ u, canonical t = .ok u ∧ canonical u = .ok u) := by
  refine ⟨?_, ?_⟩
  · intro w hfinite
    obtain ⟨s, k, hw⟩ := exists_of_isFinite hfinite
    have hbits : (ofBits w).toBits = w := toBits_ofBits (by rw [hw]; exact Binary64.noConfusion)
    rw [hw] at hbits ⊢
    dsimp only
    have htoList : (Style.report.text (finite s k)).toList = Style.report.chars (finite s k) :=
      String.toList_ofList
    refine ⟨?_, ?_, ?_, finite s k, numberOf_text s k, rfl, hbits⟩
    · intro hempty
      rw [hempty] at htoList
      exact report_ne_nil s k htoList.symm
    · rw [htoList]
      exact isSpace_of_mem_report s k
    · rw [htoList, Text.tokens_word (report_ne_nil s k) (isSpace_of_mem_report s k)]
      rfl
  · intro t x hx
    obtain ⟨s, k, rfl⟩ := exists_of_isFinite (isFinite_of_numberOf hx)
    refine ⟨Style.report.text (finite s k), ?_, ?_⟩
    · rw [canonical, hx, Except.map]
    · rw [canonical, numberOf_text, Except.map]

/-- Negative zero keeps its sign, and the text of a number in another
script settles after one rewriting. -/
theorem numberOf_text_negativeZero :
    (∃ x, numberOf (Style.report.text (ofBits 0x8000000000000000)) = .ok x ∧
      x.toBits = 0x8000000000000000) ∧
    ∃ u, canonical "٢e1" = .ok u ∧ canonical u = .ok u := by
  refine ⟨?_, ?_⟩
  · obtain ⟨-, -, -, x, hx, -, hbits⟩ :=
      numberOf_text_roundTrip.1 0x8000000000000000 (by decide +kernel)
    exact ⟨x, hx, hbits⟩
  · have htwenty : numberOf "٢e1" = .ok (.finite .plus ⟨0x4034000000000000, by decide⟩) := by
      decide +kernel
    exact numberOf_text_roundTrip.2 _ _ htwenty

end Console

end Quadratic
