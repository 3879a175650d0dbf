/-
Quadratic.Proofs.Agreement — a number is the same, whichever way it comes
in.

Coefficients can be typed at the console, or be given as values of any
kind: strings, integers, numbers of the format. Three conversions meet
here. The console refuses what is too large, a string becomes an infinity
then, and an integer is refused with another error. Apart from that each
of them is the exact value, rounded once.

* `Spells.mono`, `scan_of_ascii` — on ASCII texts the readers of literals
  agree, although one of them knows the digits of all scripts.
* `ofString?_of_scan` — what is a literal as it stands is read as that: it
  has no white space at its ends, and no name for a number.
* `scan_intChars` — the digits of an integer are a literal that rounds to
  what the integer rounds to.
* `stored_iff`, `reported_iff` — what coefficients make of one of their
  fields depends on the value in that field alone.
* `stored_agrees_with_console` — all of it, for any of the three fields.
-/
import Quadratic.Coefficients.Assign
import Quadratic.Proofs.CorrectReading
import Quadratic.Proofs.JsonNumber
import Quadratic.Proofs.Members
import Quadratic.Proofs.Transcript

namespace Quadratic

/-! ## 1. ASCII texts -/

/-- A text of ASCII characters. -/
def Text.IsAscii (cs : List Char) : Prop := ∀ c ∈ cs, c.toNat < 0x80

instance (cs : List Char) : Decidable (Text.IsAscii cs) :=
  inferInstanceAs (Decidable (∀ c ∈ cs, c.toNat < 0x80))

namespace Decimal

/-- No other script has its digits among the ASCII characters. -/
theorem digit?_of_ascii {c : Char} (hc : c.toNat < 0x80) : digit? c = asciiDigit? c := by
  have hother : ∀ z ∈ zeros.tail, 0x80 ≤ z := by decide
  have hnone : zeros.tail.findSome? (fun z => digitOf? z c) = none := by
    rw [List.findSome?_eq_none_iff]
    intro z hz
    have hle := hother z hz
    exact if_neg fun h => by omega
  have hcons : zeros = 0x30 :: zeros.tail := rfl
  rw [digit?, hcons, List.findSome?_cons, hnone, asciiDigit?]
  cases digitOf? 0x30 c <;> rfl

namespace Literal

section

variable {digit? digit?' : Char → Option Nat}

theorem Row.mono {cs : List Char} {ds : List Nat} (h : Row digit? cs ds)
    (hdigit : ∀ c ∈ cs, digit?' c = digit? c) : Row digit?' cs ds := by
  induction h with
  | nil => exact .nil
  | cons hc _ ih =>
    refine .cons ((hdigit _ (List.mem_cons_self ..)).trans hc) (ih fun c hmem => ?_)
    exact hdigit c (List.mem_cons_of_mem _ hmem)

theorem Mantissa.mono {m : List Char} {ws fs : List Nat} (h : Mantissa digit? m ws fs)
    (hdigit : ∀ c ∈ m, digit?' c = digit? c) : Mantissa digit?' m ws fs := by
  cases h with
  | whole hne hw => exact .whole hne (hw.mono hdigit)
  | point hne hw hf =>
    refine .point hne (hw.mono fun c hc => ?_) (hf.mono fun c hc => ?_)
    · exact hdigit c (List.mem_append_left _ hc)
    · exact hdigit c (List.mem_append_right _ (List.mem_cons_of_mem _ hc))
  | fraction hne hf => exact .fraction hne (hf.mono fun c hc => hdigit c (List.mem_cons_of_mem _ hc))

theorem Power.mono {p : List Char} {e : Int} (h : Power digit? p e)
    (hdigit : ∀ c ∈ p, digit?' c = digit? c) : Power digit?' p e := by
  cases h with
  | absent => exact .absent
  | present hm ht hne hd =>
    refine .present hm ht hne (hd.mono fun c hc => ?_)
    exact hdigit c (List.mem_cons_of_mem _ (List.mem_append_right _ hc))

/-- A literal stays one for every reader that knows its characters alike. -/
theorem Spells.mono {cs : List Char} {l : Literal} (h : Spells digit? cs l)
    (hdigit : ∀ c ∈ cs, digit?' c = digit? c) : Spells digit?' cs l := by
  cases h with
  | intro ht hm hp =>
    refine .intro ht (hm.mono fun c hc => ?_) (hp.mono fun c hc => ?_)
    · exact hdigit c (List.mem_append_right _ (List.mem_append_left _ hc))
    · exact hdigit c (List.mem_append_right _ (List.mem_append_right _ hc))

end

/-- On ASCII texts both readers see the same literal. -/
theorem scan_of_ascii {cs : List Char} (hcs : Text.IsAscii cs) {l : Literal}
    (h : scan digit? cs = some l) : scan asciiDigit? cs = some l := by
  rw [scan_eq_some_iff avoidsMarks_digit?] at h
  rw [scan_eq_some_iff avoidsMarks_asciiDigit?]
  exact h.mono fun c hc => (digit?_of_ascii (hcs c hc)).symm

/-! ## 2. Characters and signs of literals -/

theorem isNumberChar_of_row {cs : List Char} {ds : List Nat} (h : Row asciiDigit? cs ds) :
    ∀ c ∈ cs, Json.IsNumberChar c := fun c hc => .inl (Json.allDigits_of_row h c hc)

theorem isNumberChar_of_signText {t : List Char} {s : Sign} (h : SignText t s) :
    ∀ c ∈ t, Json.IsNumberChar c := by
  intro c hc
  cases h with
  | absent => cases hc
  | plus => exact .inr (List.mem_singleton.mp hc ▸ by decide)
  | minus => exact .inr (List.mem_singleton.mp hc ▸ by decide)

theorem isNumberChar_of_mantissa {m : List Char} {ws fs : List Nat}
    (h : Mantissa asciiDigit? m ws fs) : ∀ c ∈ m, Json.IsNumberChar c := by
  intro c hc
  have hpoint : Json.IsNumberChar '.' := .inr (by decide)
  cases h with
  | whole _ hw => exact isNumberChar_of_row hw c hc
  | point _ hw hf =>
    rcases List.mem_append.mp hc with hc | hc
    · exact isNumberChar_of_row hw c hc
    rcases List.mem_cons.mp hc with rfl | hc
    · exact hpoint
    · exact isNumberChar_of_row hf c hc
  | fraction _ hf =>
    rcases List.mem_cons.mp hc with rfl | hc
    · exact hpoint
    · exact isNumberChar_of_row hf c hc

theorem isNumberChar_of_power {p : List Char} {e : Int} (h : Power asciiDigit? p e) :
    ∀ c ∈ p, Json.IsNumberChar c := by
  intro c hc
  cases h with
  | absent => cases hc
  | present hm ht _ hd =>
    rcases List.mem_cons.mp hc with rfl | hc
    · rcases hm with rfl | rfl <;> exact .inr (by decide)
    rcases List.mem_append.mp hc with hc | hc
    · exact isNumberChar_of_signText ht c hc
    · exact isNumberChar_of_row hd c hc

/-- A literal in ASCII digits consists of digits and marks. -/
theorem isNumberChar_of_spells {cs : List Char} {l : Literal} (h : Spells asciiDigit? cs l) :
    ∀ c ∈ cs, Json.IsNumberChar c := by
  intro c hc
  cases h with
  | intro ht hm hp =>
    rcases List.mem_append.mp hc with hc | hc
    · exact isNumberChar_of_signText ht c hc
    rcases List.mem_append.mp hc with hc | hc
    · exact isNumberChar_of_mantissa hm c hc
    · exact isNumberChar_of_power hp c hc

/-- The sign that a text begins with. -/
def signOf (t : String) : Sign := if t.toList.head? = some '-' then .minus else .plus

theorem sign_of_spells {digit? : Char → Option Nat} (hmarks : AvoidsMarks digit?) {t : String}
    {l : Literal} (h : Spells digit? t.toList l) : l.sign = signOf t := by
  unfold signOf
  generalize t.toList = cs at h
  cases h with
  | @intro t m p s _ _ _ ht hm hp =>
    have hhead := head?_mantissa hmarks hm p
    cases ht with
    | absent => exact (if_neg fun hminus => (hhead '-' hminus).2 rfl).symm
    | plus => rfl
    | minus => rfl

end Literal

end Decimal

/-! ## 3. Strings -/

open Decimal Binary64

theorem Text.trim_of_forall {p : Char → Bool} {cs : List Char} (h : ∀ c ∈ cs, p c = false) :
    Text.trim p cs = cs := by
  have hdrop : ∀ {ds : List Char}, (∀ c ∈ ds, p c = false) → ds.dropWhile p = ds := by
    intro ds hds
    cases ds with
    | nil => rfl
    | cons c ds => exact List.dropWhile_cons_of_neg (by simp [hds c (List.mem_cons_self ..)])
  have hrev : ∀ c ∈ cs.reverse, p c = false := fun c hc => h c (List.mem_reverse.mp hc)
  rw [trim, hdrop h, hdrop hrev, List.reverse_reverse]

theorem isBlank_of_isNumberChar {c : Char} (h : Json.IsNumberChar c) : Text.isBlank c = false := by
  have hmarks : ∀ c ∈ marks, Text.isBlank c = false := by decide
  rcases h with hdigit | hmark
  · have hspace := isSpace_of_isDigit hdigit
    rw [Text.isSpace, Bool.or_eq_false_iff] at hspace
    exact hspace.1
  · exact hmarks c hmark

namespace Coefficients

/-- A string that is a literal as it stands is read as that literal. -/
theorem ofString?_of_scan {t : String} {l : Literal}
    (h : Literal.scan asciiDigit? t.toList = some l) : ofString? t = some l.toBinary64 := by
  have hspells := (Literal.scan_eq_some_iff avoidsMarks_asciiDigit?).mp h
  have htrim : Text.trim Text.isBlank t.toList = t.toList :=
    Text.trim_of_forall fun c hc => isBlank_of_isNumberChar (Literal.isNumberChar_of_spells hspells c hc)
  simp only [ofString?, htrim, plain?, h]

/-- The text of a number, NaN and the infinities included, is read as the
number. -/
theorem ofString?_text (x : Binary64) : ofString? (Style.report.text x) = some x := by
  cases x with
  | nan => decide
  | infinity s => cases s <;> decide
  | finite s k =>
    obtain ⟨l, hscan, hround⟩ := scan_report readsAscii_asciiDigit? s k
    rw [← hround]
    exact ofString?_of_scan (by rwa [hround, Style.text, String.toList_ofList])

end Coefficients

/-! ## 4. Integers -/

/-- The digits of an integer are a literal, and it rounds to what the
integer rounds to. -/
theorem scan_intChars {digit? : Char → Option Nat} (hdigit : ReadsAscii digit?) (n : Int) :
    ∃ l, Literal.scan digit? (intChars n) = some l ∧ l.toBinary64 = ofInt n := by
  let l : Literal := ⟨Sign.ofInt n, Literal.digitValues (Nat.toDigits 10 n.natAbs), [], 0⟩
  have hrow := Literal.row_digitValues hdigit (allDigits_toDigits n.natAbs)
  have hspells : Literal.Spells digit? (intChars n) l := by
    have hmantissa := Literal.Mantissa.whole Nat.toDigits_ne_nil hrow
    have h := Literal.Spells.intro (Literal.signText_signChars (.ofInt n)) hmantissa .absent
    rwa [List.append_nil, ← intChars_eq] at h
  have hcoefficient : l.coefficient = n.natAbs := by
    rw [Literal.coefficient, List.append_nil, Json.ofDigits_toDigits]
  have hpower : l.power = 0 := rfl
  refine ⟨l, (Literal.scan_eq_some_iff hdigit.avoidsMarks).mpr hspells, ?_⟩
  -- Both are the rank nearest to the same value.
  have hvalue : (0 : ℚ) ≤ (n.natAbs * unitsPerOne : Nat) := Nat.cast_nonneg _
  obtain ⟨k, hk⟩ := exists_isNearest hvalue
  have hdecimal : IsNearest ((n.natAbs : ℚ) * 10 ^ (0 : Int) * (unitsPerOne : Nat)) k := by
    rwa [zpow_zero, mul_one, ← Nat.cast_mul]
  have hratio : IsNearest ((n.natAbs * unitsPerOne : Nat) / (1 : Nat)) k := by
    rwa [Nat.cast_one, div_one]
  rw [Literal.toBinary64, hcoefficient, hpower, ofDecimal_of_isNearest _ hdecimal, ofInt,
    ofRatio_of_isNearest _ one_pos hratio]

namespace Console

/-- The digits of an integer at the console. -/
theorem numberOf_display (n : Int) :
    numberOf (Value.int n).display =
      if (ofInt n).isFinite then .ok (ofInt n) else .error (.outOfRange (Value.int n).display) := by
  obtain ⟨l, hscan, hround⟩ := scan_intChars readsAscii_digit? n
  have htoList : (Value.int n).display.toList = intChars n := by
    rw [Value.display, String.toList_ofList]
    rfl
  simp only [numberOf, htoList, hscan, hround]

/-- What is accepted is a literal. -/
theorem exists_scan_of_ok {t : String} {x : Binary64} (h : numberOf t = .ok x) :
    ∃ l, Literal.scan digit? t.toList = some l ∧ l.toBinary64 = x := by
  unfold numberOf at h
  split at h
  · cases h
  · rename_i l hscan
    dsimp only at h
    split at h
    · cases h
      exact ⟨l, hscan, rfl⟩
    · cases h

/-- What is too large is a literal as well, with an infinite number. -/
theorem exists_scan_of_outOfRange {t : String} (h : numberOf t = .error (.outOfRange t)) :
    ∃ l, Literal.scan digit? t.toList = some l ∧ l.toBinary64 = .infinity l.sign := by
  unfold numberOf at h
  split at h
  · cases h
  · rename_i l hscan
    obtain ⟨k, -, hround⟩ := l.exists_isNearest_toBinary64
    refine ⟨l, hscan, ?_⟩
    by_cases hk : k < infinityRank
    · rw [hround, ofRank, dif_pos hk] at h
      cases h
    · rw [hround, ofRank_of_le _ (Nat.not_lt.mp hk)]

end Console

/-! ## 5. Fields -/

namespace Coefficients

open Console (coefficientNames)

/-- Coefficients are built from the fields, and have a number under a name. -/
def Stored (fields : List (String × Value)) (name : String) (x : Binary64) : Prop :=
  ∃ q, ofFields fields = .ok q ∧ Value.lookup? name q.attributes = some (.float x)

/-- No coefficients are built, and this problem is among those that are
reported. -/
def Reported (fields : List (String × Value)) (p : FieldProblem) : Prop :=
  ∃ ps, ofFields fields = .error ps ∧ p ∈ ps

section

variable {fields : List (String × Value)}

/-- Each coefficient is the number in its field. -/
theorem field_of_ofFields {q : Coefficients} (h : ofFields fields = .ok q) {name : String}
    (hname : name ∈ coefficientNames) :
    ∃ x, field name fields = .ok x ∧ Value.lookup? name q.attributes = some (.float x) := by
  unfold ofFields at h
  split at h
  · rename_i a b c ha hb hc
    cases h
    simp only [coefficientNames, List.mem_cons, List.not_mem_nil, or_false] at hname
    rcases hname with rfl | rfl | rfl
    · exact ⟨a, ha, rfl⟩
    · exact ⟨b, hb, rfl⟩
    · exact ⟨c, hc, rfl⟩
  · cases h

theorem ofFields_of_fields (h : ∀ name ∈ coefficientNames, ∃ x, field name fields = .ok x) :
    ∃ q, ofFields fields = .ok q := by
  obtain ⟨a, ha⟩ := h "a" (by decide)
  obtain ⟨b, hb⟩ := h "b" (by decide)
  obtain ⟨c, hc⟩ := h "c" (by decide)
  exact ⟨⟨a, b, c⟩, by simp only [ofFields, ha, hb, hc]⟩

/-- Every problem is that of a field. -/
theorem field_of_reported {p : FieldProblem} (h : Reported fields p) :
    ∃ name ∈ coefficientNames, field name fields = .error p := by
  obtain ⟨ps, hps, hp⟩ := h
  have hproblem : ∀ {r : Except FieldProblem Binary64}, p ∈ problemOf r → r = .error p := by
    intro r hr
    cases r with
    | ok x => cases hr
    | error p' => rw [List.mem_singleton.mp hr]
  unfold ofFields at hps
  split at hps
  · cases hps
  · cases hps
    rcases List.mem_append.mp hp with hp | hp
    · rcases List.mem_append.mp hp with hp | hp
      · exact ⟨"a", by decide, hproblem hp⟩
      · exact ⟨"b", by decide, hproblem hp⟩
    · exact ⟨"c", by decide, hproblem hp⟩

/-- A problem has the name of its field. -/
theorem field_of_error {name : String} {p : FieldProblem} (h : field name fields = .error p) :
    p.field = name := by
  unfold field at h
  split at h
  · cases h
    rfl
  · rename_i v _
    cases hvalue : numberOf v with
    | ok y =>
      rw [hvalue] at h
      cases h
    | error e =>
      rw [hvalue] at h
      cases h
      rfl

/-- The problem of every field is reported. -/
theorem reported_of_field {name : String} (hname : name ∈ coefficientNames) {p : FieldProblem}
    (h : field name fields = .error p) : Reported fields p := by
  unfold Reported ofFields
  simp only [coefficientNames, List.mem_cons, List.not_mem_nil, or_false] at hname
  split
  · rename_i ha hb hc
    rcases hname with rfl | rfl | rfl
    · rw [ha] at h
      cases h
    · rw [hb] at h
      cases h
    · rw [hc] at h
      cases h
  · refine ⟨_, rfl, ?_⟩
    rcases hname with rfl | rfl | rfl <;> rw [h] <;> simp [problemOf]

variable {name : String} {v : Value} (hv : Value.lookup? name fields = some v)

include hv

theorem field_eq : field name fields = (numberOf v).mapError fun e => ⟨name, e⟩ := by
  simp only [field, hv]

theorem field_eq_ok_iff (x : Binary64) : field name fields = .ok x ↔ numberOf v = .ok x := by
  rw [field_eq hv]
  cases numberOf v with
  | ok y => simp only [Except.mapError, Except.ok.injEq]
  | error e => exact ⟨nofun, nofun⟩

theorem field_eq_error_iff (e : FieldError) :
    field name fields = .error ⟨name, e⟩ ↔ numberOf v = .error e := by
  rw [field_eq hv]
  cases numberOf v with
  | ok y => exact ⟨nofun, nofun⟩
  | error e' =>
    constructor
    · intro h
      cases h
      rfl
    · intro h
      cases h
      rfl

/-- What is stored depends on the value alone, if nothing is wrong with the
other fields. -/
theorem stored_iff (hname : name ∈ coefficientNames)
    (hothers : ∀ other ∈ coefficientNames, other ≠ name → ∃ y, field other fields = .ok y)
    (x : Binary64) : Stored fields name x ↔ numberOf v = .ok x := by
  rw [← field_eq_ok_iff hv]
  constructor
  · rintro ⟨q, hq, hx⟩
    obtain ⟨y, hy, hlookup⟩ := field_of_ofFields hq hname
    rw [hlookup] at hx
    cases hx
    exact hy
  · intro hx
    have hall : ∀ other ∈ coefficientNames, ∃ y, field other fields = .ok y := by
      intro other hother
      by_cases heq : other = name
      · exact ⟨x, heq ▸ hx⟩
      · exact hothers other hother heq
    obtain ⟨q, hq⟩ := ofFields_of_fields hall
    obtain ⟨y, hy, hlookup⟩ := field_of_ofFields hq hname
    rw [hx] at hy
    cases hy
    exact ⟨q, hq, hlookup⟩

/-- So does what is reported, whatever the other fields are. -/
theorem reported_iff (hname : name ∈ coefficientNames) (e : FieldError) :
    Reported fields ⟨name, e⟩ ↔ numberOf v = .error e := by
  rw [← field_eq_error_iff hv]
  constructor
  · intro h
    obtain ⟨other, -, hother⟩ := field_of_reported h
    obtain rfl : name = other := field_of_error hother
    exact hother
  · exact reported_of_field hname

end

/-! ## 6. All ways -/

/-- A number given for a coefficient, where nothing is wrong with the other
two. An ASCII string that the console accepts is stored as the number that
the console reads, and one that is too large for the console as the
infinity of its sign. An integer is stored as a number exactly if the
console reads its digits as that number, and is reported as no number
exactly if they are too large for the console. The text that a report has
for a number is stored as the number, whatever number it is. -/
theorem stored_agrees_with_console {name : String} (hname : name ∈ coefficientNames)
    {fields : List (String × Value)}
    (hothers : ∀ other ∈ coefficientNames, other ≠ name → ∃ y, field other fields = .ok y) :
    (∀ t, Value.lookup? name fields = some (.string t) → Text.IsAscii t.toList →
      (∀ x, Console.numberOf t = .ok x → Stored fields name x) ∧
      (Console.numberOf t = .error (.outOfRange t) →
        Stored fields name (.infinity (Literal.signOf t)))) ∧
    (∀ n, Value.lookup? name fields = some (.int n) →
      (∀ x, Stored fields name x ↔ Console.numberOf (Value.int n).display = .ok x) ∧
      ((∃ e, e.code = "float_type" ∧ Reported fields ⟨name, e⟩) ↔
        Console.numberOf (Value.int n).display = .error (.outOfRange (Value.int n).display))) ∧
    ∀ x, Value.lookup? name fields = some (.string (Style.report.text x)) →
      Stored fields name x := by
  refine ⟨fun t ht hascii => ⟨fun x hx => ?_, fun hrange => ?_⟩,
    fun n hn => ⟨fun x => ?_, ?_⟩, fun x hx => ?_⟩
  · obtain ⟨l, hscan, rfl⟩ := Console.exists_scan_of_ok hx
    rw [stored_iff ht hname hothers, numberOf, ofString?_of_scan (Literal.scan_of_ascii hascii hscan)]
    rfl
  · obtain ⟨l, hscan, hinfinite⟩ := Console.exists_scan_of_outOfRange hrange
    have hsign := Literal.sign_of_spells avoidsMarks_digit?
      ((Literal.scan_eq_some_iff avoidsMarks_digit?).mp hscan)
    rw [stored_iff ht hname hothers, numberOf, ofString?_of_scan (Literal.scan_of_ascii hascii hscan),
      hinfinite, hsign]
    rfl
  · rw [stored_iff hn hname hothers, Console.numberOf_display, numberOf]
    cases (ofInt n).isFinite with
    | true => exact ⟨fun h => congrArg _ (Except.ok.inj h), fun h => congrArg _ (Except.ok.inj h)⟩
    | false => exact ⟨nofun, nofun⟩
  · have hcode : ∀ e : FieldError, e.code = "float_type" ↔ e = .notANumber := by
      intro e
      cases e <;> decide
    simp only [hcode, exists_eq_left, reported_iff hn hname]
    rw [Console.numberOf_display, numberOf]
    cases (ofInt n).isFinite with
    | true => exact ⟨nofun, nofun⟩
    | false => exact ⟨fun _ => rfl, fun _ => rfl⟩
  · rw [stored_iff hx hname hothers, numberOf, ofString?_text]
    rfl

/-- A string too large for the console in the last field, an integer past
2⁵³ in the first one, and the text of NaN in between. -/
def mixedFields : List (String × Value) :=
  [("c", .string "-1e400"), ("a", .int 9007199254740993), ("b", .string "NaN")]

theorem stored_mixedFields :
    Stored mixedFields "c" (.infinity .minus) ∧
    Stored mixedFields "a" (.finite .plus ⟨0x4340000000000000, by decide⟩) ∧
    Stored mixedFields "b" .nan := by
  have hread : ∀ other ∈ coefficientNames, ∃ y, field other mixedFields = .ok y := by
    have ha : field "a" mixedFields = .ok (.finite .plus ⟨0x4340000000000000, by decide⟩) := by
      decide +kernel
    have hb : field "b" mixedFields = .ok .nan := by decide +kernel
    have hc : field "c" mixedFields = .ok (.infinity .minus) := by decide +kernel
    intro other hother
    simp only [coefficientNames, List.mem_cons, List.not_mem_nil, or_false] at hother
    rcases hother with rfl | rfl | rfl
    · exact ⟨_, ha⟩
    · exact ⟨_, hb⟩
    · exact ⟨_, hc⟩
  refine ⟨?_, ?_, ?_⟩
  · have hrange : Console.numberOf "-1e400" = .error (.outOfRange "-1e400") := by decide +kernel
    exact ((stored_agrees_with_console (by decide) fun other h _ => hread other h).1 "-1e400" rfl
      (by decide)).2 hrange
  · have hdigits : Console.numberOf (Value.int 9007199254740993).display =
        .ok (.finite .plus ⟨0x4340000000000000, by decide⟩) := by decide +kernel
    exact (((stored_agrees_with_console (by decide) fun other h _ => hread other h).2.1
      9007199254740993 rfl).1 _).mpr hdigits
  · exact (stored_agrees_with_console (by decide) fun other h _ => hread other h).2.2 .nan rfl

end Coefficients

end Quadratic
