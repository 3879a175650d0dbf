/-
Quadratic.Proofs.SeventeenDigits — seventeen digits are enough for every
number, and twenty-four characters for every text.

A number has the values around it for itself, up to half of a step on either
side. Measured by the number, half of a step is never less than 2⁻⁵⁴, also
below a power of two, where the steps are only half as wide as above it, and
among the small numbers, where they are wider (`isNearest_of_close`). A
decimal of seventeen digits comes closer to any value than that: its last
digit counts for at most 10⁻¹⁶ of the value, and it is off by at most half of
that (`exists_close_decimal`).

The point is between the one of the smallest number and the one of the
largest, since larger numbers have larger shortest decimals. The rest is
counting the characters of the two notations.

* `length_digits_le`, `point_mem` — the digits and the point.
* `length_chars_le` — the length of a text.
* `seventeen_digits_suffice` — all of it.
-/
import Mathlib.Data.Int.Log
import Mathlib.Data.Rat.Floor
import Quadratic.Proofs.Layout

namespace Quadratic

namespace Binary64

/-! ## 1. Values close to a number -/

theorem units_succ_le (k : Nat) : units (k + 1) ≤ 2 ^ 53 * 2 ^ exponent k := by
  have hsignificand : significand k + 1 ≤ 2 ^ 53 := (isSignificand_significand k).1
  calc units (k + 1)
      = (significand k + 1) * 2 ^ exponent k := by rw [units_succ, units, Nat.succ_mul]
    _ ≤ 2 ^ 53 * 2 ^ exponent k := Nat.mul_le_mul_right _ hsignificand

/-- A value that is off by less than 2⁻⁵⁴ of a number rounds to it. -/
theorem isNearest_of_close {x : ℚ} {k : Nat} (h : |x - units k| * 2 ^ 54 < units k) :
    IsNearest x k := by
  have hcast : ∀ j, (units (j + 1) : ℚ) ≤ 2 ^ 53 * 2 ^ exponent j := by
    intro j
    exact_mod_cast units_succ_le j
  have hlow := neg_abs_le (x - units k)
  have hhigh := le_abs_self (x - units k)
  rw [isNearest_iff]
  constructor
  · rintro j rfl
    have hstep := cast_units_succ j
    have hj := hcast j
    left
    rw [halfway_eq]
    linarith
  · have hk := hcast k
    have hlt := cast_units_lt (Nat.lt_succ_self k)
    left
    rw [halfway_eq]
    linarith

theorem roundsTo_of_close {w : ℚ} (hw : 0 ≤ w) {k : Fin infinityRank}
    (h : |w - toRat (finite .plus k)| * 2 ^ 54 < toRat (finite .plus k)) :
    RoundsTo w (finite .plus k) := by
  refine roundsTo_finite_iff.mpr ⟨hw, ?_⟩
  rw [abs_sub_toRat_plus, toRat_plus, div_mul_eq_mul_div,
    div_lt_div_iff_of_pos_right cast_unitsPerOne_pos] at h
  rw [abs_of_nonneg hw]
  exact isNearest_of_close h

end Binary64

namespace Decimal

open Binary64

/-! ## 2. Seventeen digits -/

/-- Up to the next power of ten there is room for the last integer. -/
theorem isDecimal_of_le {n : Nat} (hn : 0 < n) {a : Int} (hnonneg : 0 ≤ a) (hle : a ≤ 10 ^ n)
    (e : Int) : IsDecimal n (a * 10 ^ e) := by
  rcases hle.lt_or_eq with hlt | rfl
  · exact ⟨a, e, by rwa [abs_of_nonneg hnonneg], rfl⟩
  · have hone : (1 : Int) < 10 ^ n := one_lt_pow₀ (by decide) hn.ne'
    refine ⟨1, n + e, by rwa [abs_one], ?_⟩
    rw [zpow_add₀ (by norm_num), zpow_natCast, Int.cast_one, one_mul, Int.cast_pow, Int.cast_ofNat]

/-- An integer of seventeen digits is close to every value of that size. -/
theorem exists_close_integer {x : ℚ} (hlow : 10 ^ 16 ≤ x) (hhigh : x < 10 ^ 17) :
    ∃ a : Int, 0 ≤ a ∧ a ≤ 10 ^ 17 ∧ |a - x| * 2 ^ 54 < x := by
  have hdistance := abs_sub_round x
  rw [abs_sub_comm] at hdistance
  obtain ⟨hbelow, habove⟩ := abs_le.mp hdistance
  have hnonneg : (-1 : ℚ) < round x := by linarith
  have hle : (round x : ℚ) < 10 ^ 17 + 1 := by linarith
  have hnonneg' : -1 < round x := by exact_mod_cast hnonneg
  have hle' : round x < 10 ^ 17 + 1 := by exact_mod_cast hle
  exact ⟨round x, by omega, by omega, by linarith⟩

/-- Every positive value is off by less than 2⁻⁵⁴ of itself from a decimal of
seventeen digits. -/
theorem exists_close_decimal {v : ℚ} (hv : 0 < v) :
    ∃ w, 0 ≤ w ∧ IsDecimal 17 w ∧ |w - v| * 2 ^ 54 < v := by
  have hlow : (10 : ℚ) ^ Int.log 10 v ≤ v := Int.zpow_log_le_self (b := 10) (by decide) hv
  have hhigh : v < (10 : ℚ) ^ (Int.log 10 v + 1) :=
    Int.lt_zpow_succ_log_self (b := 10) (by decide) v
  -- The grid on which `v` has seventeen digits.
  obtain ⟨e, he⟩ : ∃ e, Int.log 10 v = 16 + e := ⟨Int.log 10 v - 16, by omega⟩
  have hpos : (0 : ℚ) < 10 ^ e := zpow_pos (by norm_num) e
  rw [he, zpow_add₀ (by norm_num), ← le_div_iff₀ hpos] at hlow
  rw [he, add_right_comm, zpow_add₀ (by norm_num), ← div_lt_iff₀ hpos] at hhigh
  obtain ⟨a, hnonneg, hle, hclose⟩ :=
    exists_close_integer (by exact_mod_cast hlow) (by exact_mod_cast hhigh)
  have hdistance : |a * 10 ^ e - v| = |a - v / 10 ^ e| * 10 ^ e := by
    rw [← abs_of_pos hpos, ← abs_mul, abs_of_pos hpos, sub_mul, div_mul_cancel₀ _ hpos.ne']
  refine ⟨a * 10 ^ e, mul_nonneg (Int.cast_nonneg hnonneg) hpos.le,
    isDecimal_of_le (by decide) hnonneg hle e, ?_⟩
  rwa [hdistance, mul_right_comm, ← lt_div_iff₀ hpos]

section

variable {k : Fin infinityRank} (hk : 0 < k.val)

include hk

theorem length_digits_le : (shortest k).digits.length ≤ 17 := by
  have hpos : 0 < toRat (finite .plus k) := by
    rw [toRat_plus]
    exact div_pos (Nat.cast_pos.mpr (units_zero ▸ units_strictMono hk)) cast_unitsPerOne_pos
  obtain ⟨w, hw, hdecimal, hclose⟩ := exists_close_decimal hpos
  by_contra hlt
  exact not_roundsTo_of_fewer hk (Nat.not_le.mp hlt) hdecimal (roundsTo_of_close hw hclose)

end

/-- A larger number has no smaller point. -/
theorem point_mono {j k : Nat} (hj : 0 < j) (hjk : j ≤ k) :
    (shortest j).point ≤ (shortest k).point := by
  have hk : 0 < k := Nat.lt_of_lt_of_le hj hjk
  have hle : (shortest j).value ≤ (shortest k).value :=
    (shortest_strictMonoOn.le_iff_le hj hk).mpr hjk
  have hpoint := (ten_pow_le_shortest_iff hk _).mp ((point_bounds hj).1.trans hle)
  omega

/-- The point is between those of the smallest number and the largest. -/
theorem point_mem {k : Fin infinityRank} (hk : 0 < k.val) :
    -323 ≤ (shortest k).point ∧ (shortest k).point ≤ 309 := by
  have hleast : (shortest 1).point = -323 := by decide +kernel
  have hgreatest : (shortest (infinityRank - 1)).point = 309 := by decide +kernel
  rw [← hleast, ← hgreatest]
  exact ⟨point_mono one_pos hk, point_mono hk (Nat.le_pred_of_lt k.isLt)⟩

/-! ## 3. The length of a text -/

theorem length_signChars_le (s : Sign) : (signChars s).length ≤ 1 := by
  cases s <;> decide

/-- A number of three digits, with its sign. -/
theorem length_intChars_le {i : Int} (h : i.natAbs < 10 ^ 3) : (intChars i).length ≤ 4 := by
  have hdigits : (Nat.toDigits 10 i.natAbs).length ≤ 3 :=
    (Nat.length_toDigits_le_iff (by omega) (by omega)).mpr h
  have hsign := length_signChars_le (.ofInt i)
  rw [intChars_eq, List.length_append]
  omega

section

variable {ds : List Char} (hds : ds.length ≤ 17) {p : Int}

include hds

theorem length_positional_le (hlow : -2 ≤ p) (hhigh : p ≤ 7) : (positional ds p).length ≤ 21 := by
  unfold positional zeroChars
  split
  · rw [List.length_append, List.length_append, List.length_replicate]
    simp only [List.length_cons, List.length_nil]
    omega
  · split
    · rw [List.length_append, List.length_append, List.length_replicate]
      simp only [List.length_cons, List.length_nil]
      omega
    · rw [List.length_append, List.length_cons, List.length_take, List.length_drop]
      omega

theorem length_scientific_le (hlow : -323 ≤ p) (hhigh : p ≤ 309) :
    (Style.report.scientific ds p).length ≤ 23 := by
  have hexponent : (intChars (p - 1)).length ≤ 4 := length_intChars_le (by omega)
  have hfraction : (if ds.tail = [] then ['0'] else ds.tail).length ≤ 16 := by
    split
    · decide
    · rw [List.length_tail]
      omega
  have hfirst : (ds.take 1).length ≤ 1 := List.length_take_le 1 ds
  rw [scientific_report, List.length_append, List.length_append, List.length_cons,
    List.length_cons]
  omega

end

theorem length_magnitude_le (k : Fin infinityRank) : (Style.report.magnitude k).length ≤ 23 := by
  rcases Nat.eq_zero_or_pos k.val with hzero | hk
  · rw [Style.magnitude, if_pos hzero]
    decide
  · have hdigits := length_digits_le hk
    obtain ⟨hlow, hhigh⟩ := point_mem hk
    unfold Style.magnitude
    rw [if_neg hk.ne']
    dsimp only
    split
    · rename_i hpositional
      obtain ⟨hlow', hhigh'⟩ :=
        (between_bounds_iff hk).mp ((isPositional_report _ _).mp hpositional)
      exact (length_positional_le hdigits hlow' hhigh').trans (by omega)
    · exact length_scientific_le hdigits hlow hhigh

theorem length_chars_le (x : Binary64) : (Style.report.chars x).length ≤ 24 := by
  cases x with
  | nan => decide
  | infinity s => cases s <;> decide
  | finite s k =>
    have hsign := length_signChars_le s
    have hmagnitude := length_magnitude_le k
    rw [Style.chars, List.length_append]
    omega

/-- The shortest decimal of a positive number has at most seventeen digits,
and its point is where numbers of the format can have it. So the text of any
number has at most twenty-four characters, and those of a finite number are
digits, minus signs, points and the letter before an exponent. -/
theorem seventeen_digits_suffice :
    (∀ k : Fin infinityRank, 0 < k.val →
      (shortest k).digits.length ≤ 17 ∧ -323 ≤ (shortest k).point ∧ (shortest k).point ≤ 309) ∧
    (∀ x, (Style.report.text x).length ≤ 24) ∧
    (∀ s k, ∀ c ∈ (Style.report.text (finite s k)).toList, IsNumeralChar c) := by
  refine ⟨fun k hk => ⟨length_digits_le hk, point_mem hk⟩, fun x => ?_, fun s k c hc => ?_⟩
  · rw [Style.text, String.length_ofList]
    exact length_chars_le x
  · rw [Style.text, String.toList_ofList] at hc
    exact Console.isNumeralChar_of_mem_report s k c hc

/-- The smallest number without loss of precision needs all seventeen digits,
and its text all twenty-four characters. -/
theorem seventeen_digits_of_least_normal :
    let k : Fin infinityRank := ⟨2 ^ 52, by decide⟩
    0 < k.val ∧ (shortest k).digits = "22250738585072014".toList ∧
      (shortest k).digits.length ≤ 17 ∧ -323 ≤ (shortest k).point ∧ (shortest k).point ≤ 309 ∧
      Style.report.text (finite .minus k) = "-2.2250738585072014E-308" ∧
      (Style.report.text (finite .minus k)).length ≤ 24 := by
  intro k
  have hk : 0 < k.val := by decide
  have hdigits : (shortest k).digits = "22250738585072014".toList := by decide +kernel
  have htext : Style.report.text (finite .minus k) = "-2.2250738585072014E-308" := by
    decide +kernel
  obtain ⟨hlength, hlow, hhigh⟩ := seventeen_digits_suffice.1 k hk
  exact ⟨hk, hdigits, hlength, hlow, hhigh, htext, seventeen_digits_suffice.2.1 _⟩

end Decimal

end Quadratic
