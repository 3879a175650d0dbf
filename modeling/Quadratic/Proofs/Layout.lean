/-
Quadratic.Proofs.Layout — the layout of the text of a number, and the value
that the text denotes.

The notation is chosen by comparing numbers, and the text is laid out from
digits. The two cannot disagree: the shortest decimals are in the order of
their numbers (`shortest_strictMonoOn`), and both bounds are numbers whose
shortest decimal is a power of ten. So a comparison with a bound is one with
a power of ten, and the point shows its outcome (`le_iff_lt_point`).

* `between_bounds_iff` — the numbers in positional notation, by their point.
* `fixedText_positional`, `scientificText_report` — the two notations. Zeros
  that fill up stand between the point and the digits, on either side.
* `text_layout` — every text of a finite number that is not zero.
-/
import Quadratic.Proofs.CorrectReading
import Quadratic.Proofs.FewestDigits

namespace Quadratic

namespace Decimal

open Binary64

/-! ## 1. Points in order -/

/-- A larger number has a larger shortest decimal. -/
theorem shortest_strictMonoOn : StrictMonoOn (fun k => (shortest k).value) (Set.Ioi 0) := by
  intro j hj k hk hjk
  by_contra hle
  have hscaled := mul_le_mul_of_nonneg_right (not_lt.mp hle) cast_unitsPerOne_pos.le
  exact Nat.not_le.mpr hjk ((shortest_isNearest hk).mono (shortest_isNearest hj) hscaled)

theorem ten_pow_le_shortest_iff {k : Nat} (hk : 0 < k) (p : Int) :
    (10 : ℚ) ^ p ≤ (shortest k).value ↔ p < (shortest k).point := by
  obtain ⟨hlow, hhigh⟩ := point_bounds hk
  constructor
  · intro hle
    exact (zpow_lt_zpow_iff_right₀ (by norm_num)).mp (hle.trans_lt hhigh)
  · intro hlt
    exact (zpow_le_zpow_right₀ (by norm_num) (Int.le_sub_one_of_lt hlt)).trans hlow

/-- Comparing with a number whose shortest decimal is a power of ten. -/
theorem le_iff_lt_point {j k : Nat} (hj : 0 < j) (hk : 0 < k) {p : Int}
    (hten : shortest j = ⟨1, p⟩) : j ≤ k ↔ p < (shortest k).point := by
  have hvalue : (shortest j).value = 10 ^ p := by
    rw [hten, value, Nat.cast_one, one_mul]
  rw [← ten_pow_le_shortest_iff hk, ← hvalue]
  exact (shortest_strictMonoOn.le_iff_le hj hk).symm

theorem reportLow_eq : Style.reportLow = finite .plus ⟨0x3f50624dd2f1a9fc, by decide⟩ := by
  decide +kernel

theorem reportHigh_eq : Style.reportHigh = finite .plus ⟨0x416312d000000000, by decide⟩ := by
  decide +kernel

theorem isPositional_report (x : Binary64) (d : Decimal) :
    Style.report.isPositional x d = true ↔
      Style.reportLow.le x = true ∧ x.lt Style.reportHigh = true := by
  rw [← Bool.and_eq_true_iff, Style.report]

/-- The bounds of positional notation, on the point. -/
theorem between_bounds_iff {k : Fin infinityRank} (hk : 0 < k.val) :
    (Style.reportLow.le (finite .plus k) = true ∧ (finite .plus k).lt Style.reportHigh = true) ↔
      -2 ≤ (shortest k).point ∧ (shortest k).point ≤ 7 := by
  have hlow : 0x3f50624dd2f1a9fc ≤ k.val ↔ -3 < (shortest k).point :=
    le_iff_lt_point (by decide) hk (by decide +kernel)
  have hhigh : 0x416312d000000000 ≤ k.val ↔ 7 < (shortest k).point :=
    le_iff_lt_point (by decide) hk (by decide +kernel)
  rw [reportLow_eq, reportHigh_eq]
  simp only [Binary64.le, Binary64.lt, signedRank, Sign.apply, decide_eq_true_eq, Nat.cast_le,
    Nat.cast_lt]
  rw [hlow, ← Nat.not_le, hhigh]
  omega

/-! ## 2. Layouts -/

/-- The digits before a point: a lone zero, or one to seven digits that do
not begin with one. -/
def IsWhole (ds : List Char) : Prop :=
  ds = ['0'] ∨ (AllDigits ds ∧ 1 ≤ ds.length ∧ ds.length ≤ 7 ∧ ds.head? ≠ some '0')

/-- The digits behind a point: a lone zero, or digits that do not end in
one. -/
def IsFraction (ds : List Char) : Prop :=
  ds = ['0'] ∨ (AllDigits ds ∧ ds ≠ [] ∧ ds.getLast? ≠ some '0')

/-- Positional notation. -/
inductive FixedText : List Char → Prop
  | intro {whole fraction : List Char} (hwhole : IsWhole whole) (hfraction : IsFraction fraction) :
      FixedText (whole ++ '.' :: fraction)

/-- Scientific notation: one digit before the point, and an exponent that
has no plus sign and no leading zero. -/
inductive ScientificText : List Char → Prop
  | intro {c : Char} {fraction ds : List Char} {s : Sign} (hc : c.isDigit = true) (hne : c ≠ '0')
      (hfraction : IsFraction fraction) (hds : AllDigits ds) (hds_ne : ds ≠ [])
      (hhead : ds.head? ≠ some '0')
      (hrange : 7 ≤ s.apply (Nat.ofDigitChars 10 ds 0) ∨ s.apply (Nat.ofDigitChars 10 ds 0) ≤ -4) :
      ScientificText (c :: '.' :: (fraction ++ 'E' :: (signChars s ++ ds)))

section

variable {ds : List Char} (h : IsTrimmed ds)

include h

/-- What ends as trimmed digits do is a fraction. -/
theorem IsTrimmed.isFraction {fraction : List Char} (hdigits : AllDigits fraction)
    (hne : fraction ≠ []) (hlast : fraction.getLast? = ds.getLast?) : IsFraction fraction :=
  .inr ⟨hdigits, hne, hlast ▸ h.last⟩

/-- What begins as trimmed digits do is a whole part. -/
theorem IsTrimmed.isWhole {whole : List Char} (hdigits : AllDigits whole)
    (hlength : 1 ≤ whole.length ∧ whole.length ≤ 7) (hhead : whole.head? = ds.head?) :
    IsWhole whole :=
  .inr ⟨hdigits, hlength.1, hlength.2, hhead ▸ h.head⟩

theorem fixedText_positional {p : Int} (hp : p ≤ 7) : FixedText (positional ds p) := by
  unfold positional
  split
  · have hfraction : IsFraction (zeroChars p.natAbs ++ ds) :=
      h.isFraction ((allDigits_zeroChars _).append h.allDigits) (by simp [h.ne_nil])
        (List.getLast?_append_of_ne_nil _ h.ne_nil)
    exact .intro (.inl rfl) hfraction
  · have hlength := List.length_pos_iff.mpr h.ne_nil
    split
    · have hwhole : IsWhole (ds ++ zeroChars (p.toNat - ds.length)) := by
        refine h.isWhole (h.allDigits.append (allDigits_zeroChars _)) ?_
          (List.head?_append_of_ne_nil _ h.ne_nil)
        rw [List.length_append, zeroChars, List.length_replicate]
        omega
      exact .intro hwhole (.inl rfl)
    · have hwhole : IsWhole (ds.take p.toNat) := by
        refine h.isWhole (fun c hc => h.allDigits c (List.mem_of_mem_take hc)) ?_ ?_
        · rw [List.length_take]
          omega
        · rw [List.head?_take, if_neg (by omega)]
      have hfraction : IsFraction (ds.drop p.toNat) := by
        refine h.isFraction (fun c hc => h.allDigits c (List.mem_of_mem_drop hc)) ?_ ?_
        · rw [Ne, List.drop_eq_nil_iff]
          omega
        · rw [List.getLast?_drop, if_neg (by omega)]
      exact .intro hwhole hfraction

theorem scientificText_report {p : Int} (hp : ¬ (-2 ≤ p ∧ p ≤ 7)) :
    ScientificText (Style.report.scientific ds p) := by
  obtain ⟨c, cs, rfl⟩ := List.exists_cons_of_ne_nil h.ne_nil
  have hfraction : IsFraction (if cs = [] then ['0'] else cs) := by
    split
    · exact .inl rfl
    · rename_i hne
      exact h.isFraction (fun d hd => h.allDigits d (List.mem_cons_of_mem _ hd)) hne
        (List.getLast?_cons_of_ne_nil hne).symm
  rw [scientific_report, intChars_eq]
  refine .intro (h.allDigits c (List.mem_cons_self ..)) ?_ hfraction (allDigits_toDigits _)
    Nat.toDigits_ne_nil (head?_toDigits (by omega)) ?_
  · rintro rfl
    exact h.head rfl
  · rw [Nat.ofDigitChars_ten_toDigits, ofInt_apply_natAbs]
    omega

end

/-! ## 3. Texts -/

/-- The text of a number that is not zero denotes its shortest decimal, with
the sign of the number. -/
theorem denotes_text (s : Sign) {k : Fin infinityRank} (hk : 0 < k.val) :
    Denotes (Style.report.text (finite s k)) (s.apply 1 * (shortest k).value) := by
  obtain ⟨n, hchars, hvalue⟩ := exists_numeral_shortest hk.ne'
  obtain ⟨l, hscan, hsign, hliteral⟩ := Literal.scan_numeral readsAscii_digit? s n
  refine denotes_iff_scan.mpr ⟨l, ?_, ?_⟩
  · rw [Style.text, String.toList_ofList, Style.chars, ← hchars]
    exact hscan
  · rw [l.value_eq_apply, l.abs_value, hliteral, hvalue, hsign]

/-- The text of a finite number that is not zero. The two comparisons that
choose the notation come out as the point of the shortest decimal says; the
text is a minus sign, if the number is negative, and then positional or
scientific notation; and it denotes the digits of the shortest decimal with
the point in its place, and with the sign of the number. -/
theorem text_layout (s : Sign) {k : Fin infinityRank} (hk : 0 < k.val) :
    let x := finite s k
    let d := shortest k
    let fixed := Style.reportLow.le x.abs = true ∧ x.abs.lt Style.reportHigh = true
    (fixed ↔ -2 ≤ d.point ∧ d.point ≤ 7) ∧
    (∃ cs, (Style.report.text x).toList = signChars s ++ cs ∧
      (fixed → FixedText cs) ∧ (¬ fixed → ScientificText cs)) ∧
    ∀ v, Denotes (Style.report.text x) v ↔ v = s.apply 1 * pointed d.digits d.point := by
  intro x d fixed
  have hpoint : fixed ↔ -2 ≤ d.point ∧ d.point ≤ 7 := between_bounds_iff hk
  have htrimmed : IsTrimmed d.digits := isTrimmed_digits hk
  have htest : Style.report.isPositional (finite .plus k) d = true ↔ fixed :=
    isPositional_report (finite .plus k) d
  refine ⟨hpoint, ⟨Style.report.magnitude k, ?_, ?_, ?_⟩, fun v => ?_⟩
  · rw [Style.text, String.toList_ofList, Style.chars]
  · intro hfixed
    unfold Style.magnitude
    rw [if_neg hk.ne', if_pos (htest.mpr hfixed)]
    exact fixedText_positional htrimmed (hpoint.mp hfixed).2
  · intro hscientific
    unfold Style.magnitude
    rw [if_neg hk.ne', if_neg (htest.not.mpr hscientific)]
    exact scientificText_report htrimmed (hpoint.not.mp hscientific)
  · rw [pointed_digits]
    exact ⟨fun hv => hv.unique (denotes_text s hk), fun hv => hv ▸ denotes_text s hk⟩

/-- The last number below ten million, and ten million with a minus sign. -/
theorem text_layout_ten_million :
    (0 < 0x416312cfffffffff ∧
      Style.report.text (finite .plus ⟨0x416312cfffffffff, by decide⟩) = "9999999.999999998" ∧
      FixedText "9999999.999999998".toList ∧
      Denotes "9999999.999999998" (9999999999999998 / 10 ^ 9)) ∧
    (0 < 0x416312d000000000 ∧
      Style.report.text (finite .minus ⟨0x416312d000000000, by decide⟩) = "-1.0E7" ∧
      ScientificText "1.0E7".toList ∧ Denotes "-1.0E7" (-10 ^ 7)) := by
  have hbelow : shortest 0x416312cfffffffff = ⟨9999999999999998, -9⟩ := by decide +kernel
  have hten : shortest 0x416312d000000000 = ⟨1, 7⟩ := by decide +kernel
  constructor
  · have htext : Style.report.text (finite .plus ⟨0x416312cfffffffff, by decide⟩) =
        "9999999.999999998" := by decide +kernel
    obtain ⟨hpoint, ⟨cs, hcs, hfixed, -⟩, hdenotes⟩ :=
      text_layout .plus (k := ⟨0x416312cfffffffff, by decide⟩) (by decide)
    dsimp only at hpoint hcs hfixed hdenotes
    rw [htext] at hcs
    rw [hbelow] at hpoint
    obtain rfl : "9999999.999999998".toList = cs := hcs
    refine ⟨by decide, htext, hfixed (hpoint.mpr (by decide)), ?_⟩
    rw [← htext, hdenotes, pointed_digits, hbelow]
    norm_num [value, Sign.apply]
  · have htext : Style.report.text (finite .minus ⟨0x416312d000000000, by decide⟩) = "-1.0E7" := by
      decide +kernel
    obtain ⟨hpoint, ⟨cs, hcs, -, hscientific⟩, hdenotes⟩ :=
      text_layout .minus (k := ⟨0x416312d000000000, by decide⟩) (by decide)
    dsimp only at hpoint hcs hscientific hdenotes
    rw [htext] at hcs
    rw [hten] at hpoint
    obtain rfl : "1.0E7".toList = cs := (List.cons.inj hcs).2
    refine ⟨by decide, htext, hscientific (hpoint.not.mpr (by decide)), ?_⟩
    rw [← htext, hdenotes, pointed_digits, hten]
    norm_num [value, Sign.apply]

end Decimal

end Quadratic
