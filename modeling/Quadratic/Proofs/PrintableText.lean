/-
Quadratic.Proofs.PrintableText — which texts hold nothing but printable
characters.

A text from outside may hold anything: line ends, separators of lines and
paragraphs, marks that turn the direction of writing around. Between quotes
it does not, because whatever is not printable is written as an escape, and
escapes are ASCII. What is written around it is printable as it stands, and
JSON does not undo that: its own escapes are ASCII too, and it keeps the
other characters.

* `Printable` — a text without such characters. The class is closed under
  everything that texts are put together with.
* `printable_quoted` — every text between quotes.
* `Style.printable_chars` — the text of every number, in any style whose own
  choices are printable.
* `Json.printable_stringChars`, `Json.printable_object` — what JSON adds.
-/
import Quadratic.Json
import Quadratic.Proofs.Numeral

namespace Quadratic

namespace Text

/-! ## 1. Printable characters -/

/-- Nothing but printable characters. -/
def Printable (cs : List Char) : Prop := ∀ c ∈ cs, isPrintable c = true

instance (cs : List Char) : Decidable (Printable cs) :=
  List.decidableBAll (fun c => isPrintable c = true) cs

/-- Below the first range of the tables, only control characters are not
printable. -/
theorem isPrintable_of_ascii {c : Char} (hlow : 0x20 ≤ c.toNat) (hhigh : c.toNat < 0x7F) :
    isPrintable c = true := by
  rw [isPrintable, if_pos hhigh]
  exact decide_eq_true hlow

theorem isPrintable_of_isDigit {c : Char} (hc : c.isDigit = true) : isPrintable c = true := by
  have hrange := (Decimal.isDigit_iff c).mp hc
  exact isPrintable_of_ascii (by omega) (by omega)

namespace Printable

variable {cs ds : List Char}

theorem nil : Printable [] := List.forall_mem_nil _

theorem cons {c : Char} (hc : isPrintable c = true) (hcs : Printable cs) : Printable (c :: cs) :=
  List.forall_mem_cons.mpr ⟨hc, hcs⟩

theorem append (hcs : Printable cs) (hds : Printable ds) : Printable (cs ++ ds) :=
  List.forall_mem_append.mpr ⟨hcs, hds⟩

/-- Part of a printable text. -/
theorem mono (hds : Printable ds) (h : ∀ c ∈ cs, c ∈ ds) : Printable cs :=
  fun c hc => hds c (h c hc)

theorem replicate {c : Char} (hc : isPrintable c = true) (n : Nat) :
    Printable (List.replicate n c) := by
  intro d hd
  rwa [List.eq_of_mem_replicate hd]

theorem flatMap {α : Type} {f : α → List Char} {xs : List α} (h : ∀ x ∈ xs, Printable (f x)) :
    Printable (xs.flatMap f) := by
  intro c hc
  obtain ⟨x, hx, hxc⟩ := List.mem_flatMap.mp hc
  exact h x hx c hxc

theorem intercalate {sep : List Char} (hsep : Printable sep) {texts : List (List Char)}
    (h : ∀ cs ∈ texts, Printable cs) : Printable (sep.intercalate texts) := by
  induction texts with
  | nil => exact nil
  | cons cs texts ih =>
    obtain ⟨hcs, htexts⟩ := List.forall_mem_cons.mp h
    cases texts with
    | nil => rwa [List.intercalate_singleton]
    | cons ds texts =>
      rw [List.intercalate_cons_cons]
      exact (hcs.append hsep).append (ih htexts)

theorem of_allDigits (h : Decimal.AllDigits cs) : Printable cs :=
  fun c hc => isPrintable_of_isDigit (h c hc)

/-- Strings, one after the other. -/
theorem string_append_iff {s t : String} :
    Printable (s ++ t).toList ↔ Printable s.toList ∧ Printable t.toList := by
  rw [String.toList_append]
  exact List.forall_mem_append

end Printable

/-! ## 2. Quoted texts -/

theorem printable_hex (width n : Nat) : Printable (hex width n) := by
  have hdigit : ∀ d < 16, isPrintable (Nat.digitChar d) = true := by decide
  intro c hc
  obtain ⟨i, -, rfl⟩ := List.mem_map.mp hc
  exact hdigit _ (Nat.mod_lt _ (by decide))

/-- Escapes are ASCII. -/
theorem printable_codePoint (n : Nat) : Printable (codePoint n) := by
  unfold codePoint
  split
  · exact .cons rfl (.cons rfl (printable_hex 2 n))
  · split
    · exact .cons rfl (.cons rfl (printable_hex 4 n))
    · exact .cons rfl (.cons rfl (printable_hex 8 n))

theorem isPrintable_quoteFor (cs : List Char) : isPrintable (quoteFor cs) = true := by
  unfold quoteFor
  split <;> rfl

/-- Whatever a character is, it is printable between quotes. -/
theorem printable_quoteChar {q : Char} (hq : isPrintable q = true) (c : Char) :
    Printable (quoteChar q c) := by
  unfold quoteChar
  split
  · rename_i hc
    rcases hc with rfl | rfl
    · exact .cons rfl (.cons hq .nil)
    · decide
  · repeat' split
    · decide
    · decide
    · decide
    · rename_i hc
      exact .cons hc .nil
    · exact printable_codePoint c.toNat

/-- Every text is printable between quotes. -/
theorem printable_quoted (s : String) : Printable (quoted s).toList := by
  have hq := isPrintable_quoteFor s.toList
  rw [quoted, String.toList_ofList]
  exact (Printable.cons hq (.flatMap fun c _ => printable_quoteChar hq c)).append (.cons hq .nil)

end Text

/-! ## 3. Numbers -/

open Text (Printable isPrintable)

namespace Decimal

theorem printable_zeroChars (n : Nat) : Printable (zeroChars n) := .replicate rfl n

theorem printable_toDigits (n : Nat) : Printable (Nat.toDigits 10 n) :=
  .of_allDigits (allDigits_toDigits n)

theorem printable_padded (width : Nat) {cs : List Char} (hcs : Printable cs) :
    Printable (padded width cs) := (printable_zeroChars _).append hcs

theorem printable_signChars (s : Sign) : Printable (signChars s) := by
  cases s <;> decide

theorem printable_intChars (i : Int) : Printable (intChars i) := by
  rw [intChars_eq]
  exact (printable_signChars _).append (printable_toDigits _)

theorem printable_positional {ds : List Char} (hds : Printable ds) (point : Int) :
    Printable (positional ds point) := by
  have hend : Printable ['.', '0'] := by decide
  unfold positional
  split
  · exact ((by decide : Printable ['0', '.']).append (printable_zeroChars _)).append hds
  · split
    · exact (hds.append (printable_zeroChars _)).append hend
    · exact (hds.mono fun _ => List.mem_of_mem_take).append
        (.cons rfl (hds.mono fun _ => List.mem_of_mem_drop))

theorem toList_toString (i : Int) : (toString i).toList = intChars i := by
  rw [Int.toString_eq_repr]
  cases i with
  | ofNat n =>
    have hnonneg : ¬ Int.ofNat n < 0 := Int.not_lt.mpr (Int.natCast_nonneg n)
    rw [intChars, if_neg hnonneg]
    exact Nat.toList_repr
  | negSucc n =>
    have hrepr : (Int.negSucc n).repr = "-" ++ (n + 1).repr := rfl
    rw [intChars, if_pos (Int.negSucc_lt_zero n), hrepr, String.toList_append, Nat.toList_repr]
    rfl

end Decimal

/-- The text of an integer. -/
theorem printable_toString (i : Int) : Printable (toString i).toList := by
  rw [Decimal.toList_toString]
  exact Decimal.printable_intChars i

namespace Style

variable {st : Style} (hmark : isPrintable st.mark = true)

include hmark

theorem printable_scientific {ds : List Char} (hds : Printable ds) (point : Int) :
    Printable (st.scientific ds point) := by
  have hfirst : Printable (ds.take 1) := hds.mono fun _ => List.mem_of_mem_take
  have htail : Printable ds.tail := hds.mono fun _ => List.mem_of_mem_tail
  have hexponent := Decimal.printable_padded st.exponentWidth
    (Decimal.printable_toDigits (point - 1).natAbs)
  unfold scientific
  refine ((hfirst.append ?_).append (.cons hmark ?_)).append hexponent
  · cases hdigits : ds.tail with
    | nil => cases st.fullFraction <;> decide
    | cons d rest => exact .cons rfl (hdigits ▸ htail)
  · split
    · decide
    · cases st.plusSign <;> decide

theorem printable_magnitude (k : Fin infinityRank) : Printable (st.magnitude k) := by
  have hdigits : Printable (Decimal.shortest k).digits := Decimal.printable_toDigits _
  unfold magnitude
  split
  · decide
  · dsimp only
    split
    · exact Decimal.printable_positional hdigits _
    · exact printable_scientific hmark hdigits _

/-- The text of a number is printable if the style is. -/
theorem printable_chars (hnan : Printable st.nan) (hinfinity : Printable st.infinity)
    (x : Binary64) : Printable (st.chars x) := by
  cases x with
  | nan => exact hnan
  | infinity s => exact (Decimal.printable_signChars s).append hinfinity
  | finite s k => exact (Decimal.printable_signChars s).append (printable_magnitude hmark k)

end Style

namespace Style

theorem printable_report (x : Binary64) : Printable (report.text x).toList := by
  rw [text, String.toList_ofList]
  exact printable_chars rfl (by decide) (by decide) x

theorem printable_diagnostic (x : Binary64) : Printable (diagnostic.text x).toList := by
  rw [text, String.toList_ofList]
  exact printable_chars rfl (by decide) (by decide) x

end Style

/-! ## 4. JSON -/

namespace Json

/-- Inside a string of JSON a character is written with an escape, which is
ASCII, or as it is. -/
theorem printable_escapeChar {c : Char} (hc : isPrintable c = true) : Printable (escapeChar c) := by
  unfold escapeChar
  repeat' split
  all_goals first
    | decide
    | exact .cons rfl (.cons rfl (Text.printable_hex 4 c.toNat))
    | exact .cons hc .nil

theorem printable_stringChars {s : String} (hs : Printable s.toList) :
    Printable (stringChars s) := by
  have hchars : Printable (s.toList.flatMap escapeChar) :=
    .flatMap fun c hc => printable_escapeChar (hs c hc)
  exact (Printable.cons rfl hchars).append (by decide)

/-- A member of an object whose key and value are printable. -/
def PrintableMember (m : String × Json) : Prop := Printable m.1.toList ∧ Printable m.2.chars

theorem printable_membersTail {ms : List (String × Json)} (h : ∀ m ∈ ms, PrintableMember m) :
    Printable (membersTail ms) := by
  induction ms with
  | nil =>
    rw [membersTail]
    decide
  | cons m ms ih =>
    obtain ⟨hm, hms⟩ := List.forall_mem_cons.mp h
    rw [membersTail]
    exact .append (.append (.cons rfl (.cons rfl (printable_stringChars hm.1)))
      (.cons rfl (.cons rfl hm.2))) (ih hms)

theorem printable_object {ms : List (String × Json)} (h : ∀ m ∈ ms, PrintableMember m) :
    Printable (object ms).chars := by
  cases ms with
  | nil =>
    rw [chars]
    decide
  | cons m ms =>
    obtain ⟨hm, hms⟩ := List.forall_mem_cons.mp h
    rw [chars]
    exact .append (.append (.cons rfl (printable_stringChars hm.1)) (.cons rfl (.cons rfl hm.2)))
      (printable_membersTail hms)

end Json

end Quadratic
