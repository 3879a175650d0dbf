/-
Quadratic.Proofs.DigitsOfText — the digits that are read off a text.

A number in the diagnostic style is its shortest digits, with a point among
them, and maybe with zeros around them or an exponent. All of this is undone
when the text is cut at the mark of the exponent and at the point, and when the
zeros are taken away at both ends: the shortest digits have none there.

* `trimmed_eq` — zeros around digits are taken away.
* `digitsOfText_positional`, `digitsOfText_scientific` — the two notations.
* `digitsOfText_diagnostic` — what is read off the text of a positive number
  are the digits of its shortest decimal, and where the point is in it.
-/
import Mathlib.Data.List.TakeWhile
import Quadratic.Proofs.FewestDigits
import Quadratic.Proofs.JsonNumber

namespace Quadratic.Decimal

open Binary64
open Json (exponentChars scientific_json)

/-! ## 1. Cutting -/

theorem partition_append {c : Char} {cs : List Char} (h : c ∉ cs) (ds : List Char) :
    partition c (cs ++ c :: ds) = (cs, ds) := by
  have hall : ∀ d ∈ cs, decide (d ≠ c) = true :=
    fun d hd => decide_eq_true fun hdc => h (hdc ▸ hd)
  rw [partition, List.takeWhile_append_of_pos hall, List.dropWhile_append_of_pos hall]
  simp

theorem partition_of_not_mem {c : Char} {cs : List Char} (h : c ∉ cs) :
    partition c cs = (cs, []) := by
  have hall : ∀ d ∈ cs, decide (d ≠ c) = true :=
    fun d hd => decide_eq_true fun hdc => h (hdc ▸ hd)
  rw [partition, List.takeWhile_eq_self_iff.mpr hall, List.dropWhile_eq_nil_iff.mpr hall,
    List.tail_nil]

theorem AllDigits.not_mem {ds : List Char} (h : AllDigits ds) {c : Char}
    (hc : c.isDigit = false) : c ∉ ds := by
  intro hmem
  rw [h c hmem] at hc
  cases hc

theorem exponentOf_exponentChars (e : Int) : exponentOf (exponentChars e) = e := by
  have hvalue : Nat.ofDigitChars 10 (padded 2 (Nat.toDigits 10 e.natAbs)) 0 = e.natAbs := by
    rw [padded, ofDigitChars_zeroChars_append, Nat.ofDigitChars_ten_toDigits]
  unfold exponentChars
  split
  · rw [List.singleton_append, exponentOf, hvalue]
    omega
  · rw [List.singleton_append, exponentOf, hvalue]
    omega

/-! ## 2. Zeros at both ends -/

section

variable {ds : List Char} (h : IsTrimmed ds)

include h

theorem IsTrimmed.reverse : IsTrimmed ds.reverse where
  ne_nil := List.reverse_ne_nil_iff.mpr h.ne_nil
  allDigits c hc := h.allDigits c (List.mem_reverse.mp hc)
  head := by
    rw [List.head?_reverse]
    exact h.last
  last := by
    rw [List.getLast?_reverse]
    exact h.head

theorem IsTrimmed.dropWhile_append (m : Nat) (cs : List Char) :
    (zeroChars m ++ (ds ++ cs)).dropWhile (· = '0') = ds ++ cs := by
  obtain ⟨d, ds', rfl⟩ := List.exists_cons_of_ne_nil h.ne_nil
  have hd : d ≠ '0' := fun hzero => h.head (congrArg some hzero)
  have hzeros : ∀ c ∈ zeroChars m, decide (c = '0') = true :=
    fun c hc => decide_eq_true (List.eq_of_mem_replicate hc)
  rw [List.dropWhile_append_of_pos hzeros, List.cons_append,
    List.dropWhile_cons_of_neg (by simpa using hd)]

/-- Zeros on either side of trimmed digits are taken away. Those in front move
the point. -/
theorem trimmed_eq {whole fraction : List Char} {m n : Nat} (e : Int)
    (hall : whole ++ fraction = zeroChars m ++ (ds ++ zeroChars n)) :
    trimmed whole fraction e = (ds, whole.length + e - m) := by
  have hreverse : (ds ++ zeroChars n).reverse = zeroChars n ++ (ds.reverse ++ []) := by
    rw [List.reverse_append, zeroChars, List.reverse_replicate, List.append_nil]
  have hlength : (zeroChars m ++ (ds ++ zeroChars n)).length = m + (ds ++ zeroChars n).length := by
    rw [List.length_append, zeroChars, List.length_replicate]
  rw [trimmed, hall, h.dropWhile_append, hreverse, h.reverse.dropWhile_append, List.append_nil,
    List.reverse_reverse, hlength, Nat.cast_add, Int.add_sub_cancel]

/-! ## 3. Notations -/

/-- A text without an exponent. -/
theorem digitsOfText_of_fixed {whole fraction : List Char} (hwhole : AllDigits whole)
    (hfraction : AllDigits fraction) {m n : Nat}
    (hall : whole ++ fraction = zeroChars m ++ (ds ++ zeroChars n)) :
    digitsOfText (whole ++ '.' :: fraction) = (ds, (whole.length : Int) - m) := by
  have hwhole' : 'e' ∉ whole := hwhole.not_mem rfl
  have hfraction' : 'e' ∉ fraction := hfraction.not_mem rfl
  have hmark : 'e' ∉ whole ++ '.' :: fraction := by simp [hwhole', hfraction']
  have hnone : exponentOf [] = 0 := rfl
  rw [digitsOfText, partition_of_not_mem hmark]
  dsimp only
  rw [partition_append (hwhole.not_mem rfl), hnone]
  dsimp only
  rw [trimmed_eq h 0 hall, Int.add_zero]

theorem digitsOfText_positional (p : Int) : digitsOfText (positional ds p) = (ds, p) := by
  unfold positional
  split
  · have hall : ['0'] ++ (zeroChars p.natAbs ++ ds) =
        zeroChars (p.natAbs + 1) ++ (ds ++ zeroChars 0) := by
      simp [zeroChars, List.replicate_succ]
    have hfixed := digitsOfText_of_fixed h allDigits_zero
      ((allDigits_zeroChars p.natAbs).append h.allDigits) hall
    have hpoint : ((['0'] : List Char).length : Int) - (p.natAbs + 1 : Nat) = p := by
      rw [List.length_singleton]
      omega
    rwa [hpoint] at hfixed
  · split
    · have hall : ds ++ zeroChars (p.toNat - ds.length) ++ ['0'] =
          zeroChars 0 ++ (ds ++ zeroChars (p.toNat - ds.length + 1)) := by
        simp [zeroChars, List.replicate_succ']
      have hfixed := digitsOfText_of_fixed h
        (h.allDigits.append (allDigits_zeroChars (p.toNat - ds.length))) allDigits_zero hall
      have hpoint : ((ds ++ zeroChars (p.toNat - ds.length)).length : Int) - (0 : Nat) = p := by
        rw [List.length_append, zeroChars, List.length_replicate]
        omega
      rwa [hpoint] at hfixed
    · have hall : ds.take p.toNat ++ ds.drop p.toNat = zeroChars 0 ++ (ds ++ zeroChars 0) := by
        simp [zeroChars]
      have hfixed := digitsOfText_of_fixed h
        (fun c hc => h.allDigits c (List.mem_of_mem_take hc))
        (fun c hc => h.allDigits c (List.mem_of_mem_drop hc)) hall
      have hpoint : ((ds.take p.toNat).length : Int) - (0 : Nat) = p := by
        rw [List.length_take]
        omega
      rwa [hpoint] at hfixed

theorem digitsOfText_scientific (p : Int) :
    digitsOfText (Style.diagnostic.scientific ds p) = (ds, p) := by
  obtain ⟨c, cs, rfl⟩ := List.exists_cons_of_ne_nil h.ne_nil
  have hscientific : Style.diagnostic.scientific (c :: cs) p = _ := scientific_json c cs p
  have hc : AllDigits [c] := fun d hd =>
    h.allDigits d (List.mem_singleton.mp hd ▸ List.mem_cons_self ..)
  have hcs : AllDigits cs := fun d hd => h.allDigits d (List.mem_cons_of_mem _ hd)
  have hall : [c] ++ cs = zeroChars 0 ++ (c :: cs ++ zeroChars 0) := by simp [zeroChars]
  have hmark : 'e' ∉ [c] ++ if cs = [] then [] else '.' :: cs := by
    have hfirst : 'e' ∉ [c] := hc.not_mem rfl
    have hrest : 'e' ∉ cs := hcs.not_mem rfl
    split <;> simp_all
  have hparts : partition '.' ([c] ++ if cs = [] then [] else '.' :: cs) = ([c], cs) := by
    split
    · rename_i hnil
      rw [List.append_nil, partition_of_not_mem (hc.not_mem rfl), hnil]
    · exact partition_append (hc.not_mem rfl) cs
  rw [hscientific, ← List.append_assoc, digitsOfText, partition_append hmark]
  dsimp only
  rw [hparts]
  dsimp only
  rw [trimmed_eq h _ hall, exponentOf_exponentChars, List.length_singleton]
  congr 1
  omega

end

/-- What is read off the text of a positive number are the digits of its shortest
decimal, and where the point is in it. -/
theorem digitsOfText_diagnostic {k : Fin infinityRank} (hk : 0 < k.val) :
    digitsOfText (Style.diagnostic.text (finite .plus k)).toList =
      ((shortest k).digits, (shortest k).point) := by
  have htrimmed := isTrimmed_digits hk
  rw [Style.text, String.toList_ofList, Style.chars, signChars, List.nil_append, Style.magnitude,
    if_neg hk.ne']
  dsimp only
  split
  · exact digitsOfText_positional htrimmed _
  · exact digitsOfText_scientific htrimmed _

-- The smallest positive number is written with an exponent.
example : digitsOfText "5e-324".toList = (['5'], -323) := by decide

end Quadratic.Decimal
