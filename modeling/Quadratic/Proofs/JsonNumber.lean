/-
Quadratic.Proofs.JsonNumber — a number in a JSON text is read as the
number that was written.

    number   = whole fraction? exponent?
    whole    = "0" | digits that do not begin with "0"
    fraction = "." digits
    exponent = ("e" | "E") sign? digits

The grammar is narrower than that of the console: there are digits on both
sides of a point, and no zero before another digit. A number with neither
fraction nor exponent is an integer, any other one is of the 64-bit
format. So a writer of numbers has to keep the two kinds apart, and has to
lay its digits out in this grammar.

* `takeNumber?_append` — a text of the grammar is taken whole, if nothing
  follows it that could belong to it (`Follows`).
* `takeNumber?_toDigits`, `Spelled.takeNumber?` — the digits of an integer
  and the text of a magnitude of the format (`spelled_magnitude`) are of the
  grammar, and have the right kind and value.
-/
import Quadratic.Json.Reader
import Quadratic.Proofs.RoundTrip

namespace Quadratic

namespace Json

open Decimal Decimal.Literal

/-! ## 1. The grammar -/

/-- The digits before the point. -/
structure Whole (cs : List Char) (ds : List Nat) : Prop where
  row : Row asciiDigit? cs ds
  ne_nil : cs ≠ []
  begins : cs = ['0'] ∨ cs.head? ≠ some '0'

inductive Fraction : List Char → Option (List Nat) → Prop
  | absent : Fraction [] none
  | present {f : List Char} {fs : List Nat} (hne : f ≠ []) (hf : Row asciiDigit? f fs) :
      Fraction ('.' :: f) (some fs)

inductive Exponent : List Char → Option Int → Prop
  | absent : Exponent [] none
  | present {m : Char} {t d : List Char} {s : Sign} {ds : List Nat} (hm : m = 'e' ∨ m = 'E')
      (ht : SignText t s) (hne : d ≠ []) (hd : Row asciiDigit? d ds) :
      Exponent (m :: (t ++ d)) (some (s.apply (ofDigits ds)))

/-- The number that its parts make up. -/
def ofParts (s : Sign) (w : List Nat) : Option (List Nat) → Option Int → Json
  | none, none => int (s.apply (ofDigits w))
  | f, e => real (Literal.mk s w (f.getD []) (e.getD 0)).toBinary64

/-- What can come after a value: the end of the text, or one of the marks
that go on with an array or object or close it. -/
def Follows (rest : List Char) : Prop := ∀ c ∈ rest.head?, c ∈ [',', ']', '\x7d']

/-! ## 2. Parts are taken whole -/

theorem avoids_of_follows {rest : List Char} (h : Follows rest) :
    ∀ c ∈ rest.head?, asciiDigit? c = none ∧ c ≠ '.' ∧ c ≠ 'e' ∧ c ≠ 'E' := by
  have hmarks : ∀ c ∈ [',', ']', '\x7d'], asciiDigit? c = none ∧ c ≠ '.' ∧ c ≠ 'e' ∧ c ≠ 'E' := by
    decide
  exact fun c hc => hmarks c (h c hc)

/-- The digits before the point. After a zero there are none. -/
def takeWhole : List Char → List Nat × List Char
  | '0' :: cs => ([0], cs)
  | cs => takeDigits asciiDigit? cs

/-- A number is taken in three parts. -/
theorem takeNumber?_eq {s : Sign} {cs mid mid' rest : List Char} {w : List Nat}
    {f : Option (List Nat)} {e : Option Int} (hw : takeWhole cs = (w, mid)) (hne : w ≠ [])
    (hf : takeFraction mid = (f, mid')) (he : takeExponent mid' = (e, rest)) :
    takeNumber? s cs = some (ofParts s w f e, rest) := by
  unfold takeNumber?
  split
  rename_i w' mid₁ hw'
  have hparts : (w', mid₁) = (w, mid) := by
    split at hw'
    · exact hw'.symm.trans hw
    · rename_i hzero
      have hdigits : takeWhole cs = takeDigits asciiDigit? cs := by
        unfold takeWhole
        split
        · exact absurd rfl (hzero _)
        · rfl
      rw [← hw', ← hdigits, hw]
  cases hparts
  rw [if_neg hne, hf]
  dsimp only
  rw [he]
  cases f <;> cases e <;> rfl

theorem takeWhole_append {w rest : List Char} {ws : List Nat} (h : Whole w ws)
    (hrest : ∀ c ∈ rest.head?, asciiDigit? c = none) : takeWhole (w ++ rest) = (ws, rest) := by
  have htake := takeDigits_append h.row hrest
  unfold takeWhole
  split
  · rename_i cs hcs
    rcases h.begins with rfl | hhead
    · cases hcs
      cases h.row with
      | cons hd hnil =>
        cases hnil
        cases hd
        rfl
    · exact absurd (by rw [← List.head?_append_of_ne_nil _ h.ne_nil, hcs]; rfl) hhead
  · exact htake

theorem takeFraction_append {f rest : List Char} {fs : Option (List Nat)} (h : Fraction f fs)
    (hrest : ∀ c ∈ rest.head?, asciiDigit? c = none ∧ c ≠ '.') :
    takeFraction (f ++ rest) = (fs, rest) := by
  cases h with
  | absent =>
    rw [List.nil_append]
    unfold takeFraction
    split
    · exact absurd rfl (hrest '.' rfl).2
    · rfl
  | present hne hf =>
    rw [List.cons_append, takeFraction, takeDigits_append hf fun c hc => (hrest c hc).1]
    cases hf with
    | nil => exact absurd rfl hne
    | cons => rfl

theorem takeExponent_append {p rest : List Char} {e : Option Int} (h : Exponent p e)
    (hrest : ∀ c ∈ rest.head?, asciiDigit? c = none ∧ c ≠ 'e' ∧ c ≠ 'E') :
    takeExponent (p ++ rest) = (e, rest) := by
  cases h with
  | absent =>
    cases rest with
    | nil => rfl
    | cons c rest =>
      obtain ⟨-, he, hE⟩ := hrest c rfl
      simp [takeExponent, he, hE]
  | present hm ht hne hd =>
    have hsign : ∀ c ∈ (_ ++ rest).head?, c ≠ '+' ∧ c ≠ '-' := fun c hc => by
      have hmarks := hd.head?_append avoidsMarks_asciiDigit? hne rest c hc
      constructor
      all_goals
        rintro rfl
        exact hmarks (by decide)
    rw [List.cons_append, List.append_assoc, takeExponent, if_pos hm, takeSign_append ht hsign]
    dsimp only
    rw [takeDigits_append hd fun c hc => (hrest c hc).1]
    cases hd with
    | nil => exact absurd rfl hne
    | cons => rfl

theorem head?_exponent {p rest : List Char} {e : Option Int} (h : Exponent p e)
    (hrest : Follows rest) : ∀ c ∈ (p ++ rest).head?, asciiDigit? c = none ∧ c ≠ '.' := by
  intro c hc
  cases h with
  | absent => exact ⟨(avoids_of_follows hrest c hc).1, (avoids_of_follows hrest c hc).2.1⟩
  | present hm =>
    obtain rfl := Option.some.inj hc
    rcases hm with rfl | rfl <;> decide

theorem head?_fraction {f rest : List Char} {fs : Option (List Nat)} (h : Fraction f fs)
    (hrest : ∀ c ∈ rest.head?, asciiDigit? c = none) :
    ∀ c ∈ (f ++ rest).head?, asciiDigit? c = none := by
  intro c hc
  cases h with
  | absent => exact hrest c hc
  | present =>
    obtain rfl := Option.some.inj hc
    decide

/-- A number is taken whole. -/
theorem takeNumber?_append (s : Sign) {w f p rest : List Char} {ws : List Nat}
    {fs : Option (List Nat)} {e : Option Int} (hw : Whole w ws) (hf : Fraction f fs)
    (hp : Exponent p e) (hrest : Follows rest) :
    takeNumber? s (w ++ (f ++ (p ++ rest))) = some (ofParts s ws fs e, rest) := by
  have hexponent := head?_exponent hp hrest
  have hwhole := takeWhole_append hw (head?_fraction hf fun c hc => (hexponent c hc).1)
  have hfraction := takeFraction_append hf hexponent
  have htail := takeExponent_append hp fun c hc =>
    have h := avoids_of_follows hrest c hc
    ⟨h.1, h.2.2⟩
  exact takeNumber?_eq hwhole (hw.row.ne_nil.mp hw.ne_nil) hfraction htail

/-! ## 3. Texts of numbers -/

theorem whole_toDigits (n : Nat) :
    Whole (Nat.toDigits 10 n) (digitValues (Nat.toDigits 10 n)) where
  row := row_digitValues readsAscii_asciiDigit? (allDigits_toDigits n)
  ne_nil := Nat.toDigits_ne_nil
  begins := by
    by_cases hn : n = 0
    · rw [hn]
      exact .inl rfl
    · exact .inr (head?_toDigits hn)

theorem ofDigits_toDigits (n : Nat) : ofDigits (digitValues (Nat.toDigits 10 n)) = n := by
  rw [ofDigits_digitValues, Nat.ofDigitChars_ten_toDigits]

/-- The digits of a natural number are an integer. -/
theorem takeNumber?_toDigits (s : Sign) (n : Nat) {rest : List Char} (hrest : Follows rest) :
    takeNumber? s (Nat.toDigits 10 n ++ rest) = some (int (s.apply n), rest) := by
  have h := takeNumber?_append s (whole_toDigits n) .absent .absent hrest
  rwa [ofParts, ofDigits_toDigits] at h

/-- A text of the grammar that is read as a magnitude of the format. -/
inductive Spelled (k : Fin infinityRank) : List Char → Prop
  | intro {w f p : List Char} {ws : List Nat} {fs : Option (List Nat)} {e : Option Int}
      (hw : Whole w ws) (hf : Fraction f fs) (hp : Exponent p e)
      (hparts : ∀ s, ofParts s ws fs e = real (.finite s k)) : Spelled k (w ++ (f ++ p))

/-- A number with a fraction or an exponent is the one that its value is
nearest to. -/
theorem ofParts_of_isNearest (s : Sign) {w : List Nat} {f : Option (List Nat)} {e : Option Int}
    {k : Fin infinityRank} (hreal : f ≠ none ∨ e ≠ none)
    (h : Binary64.IsNearest (ofDigits (w ++ f.getD []) * 10 ^ (e.getD 0 - (f.getD []).length) *
      (Binary64.unitsPerOne : Nat)) k) : ofParts s w f e = real (.finite s k) := by
  have hround : (Literal.mk s w (f.getD []) (e.getD 0)).toBinary64 = .finite s k := by
    rw [Literal.toBinary64, ← Binary64.ofRank_fin]
    exact Binary64.ofDecimal_of_isNearest s h
  cases f with
  | none =>
    cases e with
    | none => simp at hreal
    | some e => exact congrArg real hround
  | some f => cases e <;> exact congrArg real hround

theorem spelled_positional {k : Fin infinityRank} (hk : k.val ≠ 0) :
    Spelled k (positional (shortest k).digits (shortest k).point) := by
  have hpos := Nat.pos_of_ne_zero hk
  have hnearest := shortest_isNearest hpos
  obtain ⟨n, hchars, hvalue, hplain⟩ := exists_numeral_positional (digits_ne_nil (shortest k))
    (allDigits_digits _) (shortest k).point
  rw [← value_digits, ← hvalue, Numeral.value, hplain.exponent_eq] at hnearest
  have htext : n.chars = n.whole ++ ('.' :: n.fraction ++ []) := by
    rw [Numeral.chars, hplain.exponent_eq, Numeral.exponentChars, List.append_assoc]
  rw [← hchars, htext]
  have hw : Whole n.whole (digitValues n.whole) := by
    refine ⟨row_digitValues readsAscii_asciiDigit? n.whole_digits, n.whole_ne_nil, ?_⟩
    rcases hplain.whole_begins with hzero | hhead
    · exact .inl hzero
    · rw [hhead]
      exact .inr (head?_toDigits (coefficient_shortest_ne_zero hpos))
  refine .intro hw (.present hplain.fraction_ne_nil
    (row_digitValues readsAscii_asciiDigit? n.fraction_digits)) .absent fun s => ?_
  refine ofParts_of_isNearest s (.inl (Option.some_ne_none _)) ?_
  have hdigits : digitValues n.whole ++ digitValues n.fraction =
      digitValues (n.whole ++ n.fraction) := List.map_append.symm
  have hlength : (digitValues n.fraction).length = n.fraction.length := List.length_map _
  rwa [Option.getD_some, Option.getD_none, hdigits, ofDigits_digitValues, hlength]

/-- The exponent in JSON has a sign and two digits at least. -/
def exponentChars (e : Int) : List Char :=
  (if e < 0 then ['-'] else ['+']) ++ padded 2 (Nat.toDigits 10 e.natAbs)

theorem exponent_exponentChars (e : Int) : Exponent ('e' :: exponentChars e) (some e) := by
  have hdigits : AllDigits (padded 2 (Nat.toDigits 10 e.natAbs)) :=
    (allDigits_zeroChars _).append (allDigits_toDigits _)
  have hne : padded 2 (Nat.toDigits 10 e.natAbs) ≠ [] :=
    List.append_ne_nil_of_right_ne_nil _ Nat.toDigits_ne_nil
  have hrow := row_digitValues readsAscii_asciiDigit? hdigits
  have hvalue : ofDigits (digitValues (padded 2 (Nat.toDigits 10 e.natAbs))) = e.natAbs := by
    rw [ofDigits_digitValues, padded, ofDigitChars_zeroChars_append, Nat.ofDigitChars_ten_toDigits]
  unfold exponentChars
  by_cases hneg : e < 0
  · have h := Exponent.present (.inl rfl) .minus hne hrow
    have happly : Sign.minus.apply e.natAbs = e := by
      rw [Sign.apply]
      omega
    rwa [hvalue, happly, ← if_pos hneg (t := ['-']) (e := ['+'])] at h
  · have h := Exponent.present (.inl rfl) .plus hne hrow
    have happly : Sign.plus.apply e.natAbs = e := by
      rw [Sign.apply]
      omega
    rwa [hvalue, happly, ← if_neg hneg (t := ['-']) (e := ['+'])] at h

theorem scientific_json (c : Char) (cs : List Char) (p : Int) :
    Style.json.scientific (c :: cs) p =
      [c] ++ ((if cs = [] then [] else '.' :: cs) ++ 'e' :: exponentChars (p - 1)) := by
  unfold Style.scientific exponentChars
  dsimp only [Style.json, Style.diagnostic]
  cases cs <;> simp

theorem spelled_scientific {k : Fin infinityRank} (hk : k.val ≠ 0) :
    Spelled k (Style.json.scientific (shortest k).digits (shortest k).point) := by
  have hpos := Nat.pos_of_ne_zero hk
  have hnearest := shortest_isNearest hpos
  have hhead := head?_toDigits (coefficient_shortest_ne_zero hpos)
  have hdigits := allDigits_digits (shortest k)
  rw [← value_digits] at hnearest
  rw [← digits] at hhead
  generalize (shortest k).point = p at hnearest ⊢
  obtain ⟨c, cs, hcs⟩ := List.exists_cons_of_ne_nil (digits_ne_nil (shortest k))
  rw [hcs] at hnearest hhead hdigits ⊢
  have hc : AllDigits [c] := by
    intro d hd
    rw [List.mem_singleton.mp hd]
    exact hdigits c (List.mem_cons_self ..)
  have hcs' : AllDigits cs := fun d hd => hdigits d (List.mem_cons_of_mem _ hd)
  rw [scientific_json]
  have hf : Fraction (if cs = [] then [] else '.' :: cs)
      (if cs = [] then none else some (digitValues cs)) := by
    by_cases hnil : cs = []
    · rw [if_pos hnil, if_pos hnil]
      exact .absent
    · rw [if_neg hnil, if_neg hnil]
      exact .present hnil (row_digitValues readsAscii_asciiDigit? hcs')
  refine .intro ⟨row_digitValues readsAscii_asciiDigit? hc, by simp, .inr hhead⟩ hf
    (exponent_exponentChars (p - 1)) fun s => ofParts_of_isNearest s (.inr (Option.some_ne_none _)) ?_
  have hfraction : (if cs = [] then none else some (digitValues cs)).getD [] = digitValues cs := by
    split
    · rename_i hnil
      rw [hnil]
      rfl
    · rfl
  have hexp : p - 1 - ((digitValues cs).length : Int) = p - (c :: cs).length := by
    rw [digitValues, List.length_map, List.length_cons]
    omega
  have hcons : digitValues [c] ++ digitValues cs = digitValues (c :: cs) := rfl
  rwa [hfraction, Option.getD_some, hexp, hcons, ofDigits_digitValues]

theorem spelled_zero {k : Fin infinityRank} (hk : k.val = 0) : Spelled k ['0', '.', '0'] := by
  have hw : Whole ['0'] [0] := whole_toDigits 0
  have hsum : ofDigits ([0] ++ (some [0]).getD []) = 0 := rfl
  refine .intro hw (.present hw.ne_nil hw.row) .absent fun s => ?_
  refine ofParts_of_isNearest s (.inl (Option.some_ne_none _)) ?_
  rw [hsum, hk, Nat.cast_zero, zero_mul, zero_mul]
  exact Binary64.isNearest_zero

/-- The text of a magnitude is of the grammar, in whatever notation. -/
theorem spelled_magnitude (k : Fin infinityRank) : Spelled k (Style.json.magnitude k) := by
  unfold Style.magnitude
  by_cases hk : k.val = 0
  · rw [if_pos hk]
    exact spelled_zero hk
  · rw [if_neg hk]
    dsimp only
    split
    · exact spelled_positional hk
    · exact spelled_scientific hk

/-- The text of a magnitude is read as the magnitude. -/
theorem Spelled.takeNumber? {k : Fin infinityRank} {cs rest : List Char} (h : Spelled k cs)
    (s : Sign) (hrest : Follows rest) :
    Json.takeNumber? s (cs ++ rest) = some (real (.finite s k), rest) := by
  cases h with
  | intro hw hf hp hparts =>
    rw [← hparts, List.append_assoc, List.append_assoc]
    exact takeNumber?_append s hw hf hp hrest

/-! ## 4. Characters -/

/-- The characters that numbers are made of. -/
def IsNumberChar (c : Char) : Prop := c.isDigit = true ∨ c ∈ marks

theorem allDigits_of_row {cs : List Char} {ds : List Nat} (h : Row asciiDigit? cs ds) :
    AllDigits cs := by
  induction h with
  | nil => nofun
  | cons hd _ ih =>
    intro c hc
    rcases List.mem_cons.mp hc with rfl | hc
    · unfold asciiDigit? digitOf? at hd
      split at hd
      · rename_i hbounds
        exact (isDigit_iff c).mpr hbounds
      · cases hd
    · exact ih c hc

section

variable {k : Fin infinityRank} {cs : List Char} (h : Spelled k cs)

include h

theorem Spelled.isNumberChar : ∀ c ∈ cs, IsNumberChar c := by
  cases h with
  | intro hw hf hp =>
    intro c hc
    rcases List.mem_append.mp hc with hc | hc
    · exact .inl (allDigits_of_row hw.row c hc)
    rcases List.mem_append.mp hc with hc | hc
    · cases hf with
      | absent => cases hc
      | present _ hf =>
        rcases List.mem_cons.mp hc with rfl | hc
        · exact .inr (by decide)
        · exact .inl (allDigits_of_row hf c hc)
    · cases hp with
      | absent => cases hc
      | present hm ht _ hd =>
        rcases List.mem_cons.mp hc with rfl | hc
        · rcases hm with rfl | rfl <;> exact .inr (by decide)
        rcases List.mem_append.mp hc with hc | hc
        · cases ht with
          | absent => cases hc
          | plus =>
            rw [List.mem_singleton.mp hc]
            exact .inr (by decide)
          | minus =>
            rw [List.mem_singleton.mp hc]
            exact .inr (by decide)
        · exact .inl (allDigits_of_row hd c hc)

theorem Spelled.exists_digit : ∃ c rest, cs = c :: rest ∧ c.isDigit = true := by
  cases h with
  | intro hw =>
    obtain ⟨c, w, rfl⟩ := List.exists_cons_of_ne_nil hw.ne_nil
    exact ⟨c, _, rfl, allDigits_of_row hw.row c (List.mem_cons_self ..)⟩

end

end Json

end Quadratic
