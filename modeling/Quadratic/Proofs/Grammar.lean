/-
Quadratic.Proofs.Grammar — the grammar of decimal literals, and what a
literal denotes.

    literal  = sign? mantissa power?
    mantissa = digits ("." digit*)? | "." digits
    power    = ("e" | "E") sign? digits

Each rule is a relation between a whole text and what it stands for, so
the grammar says nothing about how a text is read. The scanner takes the
text apart from left to right and never goes back. It can do so because
no part of a literal begins with a character that the part before it
could have taken: the marks are no digits (`AvoidsMarks`).

* `takeDigits_append`, `takeSign_append`, `takeFraction_append`,
  `exists_takeDigits_mantissa` — a part of a literal is taken whole.
* `exists_row`, `exists_signText`, `exists_mantissa` — what is taken is
  such a part.
* `exponent?_eq_some_iff`, `scan_eq_some_iff` — the scanner accepts the
  texts of the grammar and no others.
* `Denotes` — the exact value of a text.
-/
import Mathlib.Algebra.Order.Field.Rat
import Mathlib.Data.List.Forall2
import Quadratic.Decimal.Literal

namespace Quadratic.Decimal

/-! ## 1. The grammar -/

/-- The characters of a literal that are not digits. -/
def marks : List Char := ['+', '-', '.', 'e', 'E']

/-- A reader of digits that takes no mark for one. -/
def AvoidsMarks (digit? : Char → Option Nat) : Prop := ∀ c ∈ marks, digit? c = none

instance (digit? : Char → Option Nat) : Decidable (AvoidsMarks digit?) :=
  List.decidableBAll _ marks

namespace Literal

/-- Digits with their values. -/
abbrev Row (digit? : Char → Option Nat) : List Char → List Nat → Prop :=
  List.Forall₂ fun c d => digit? c = some d

inductive SignText : List Char → Sign → Prop
  | absent : SignText [] .plus
  | plus : SignText ['+'] .plus
  | minus : SignText ['-'] .minus

section

variable (digit? : Char → Option Nat)

/-- The digits before and after the point. -/
inductive Mantissa : List Char → List Nat → List Nat → Prop
  | whole {w : List Char} {ws : List Nat} (hne : w ≠ []) (hw : Row digit? w ws) :
      Mantissa w ws []
  | point {w f : List Char} {ws fs : List Nat} (hne : w ≠ []) (hw : Row digit? w ws)
      (hf : Row digit? f fs) : Mantissa (w ++ '.' :: f) ws fs
  | fraction {f : List Char} {fs : List Nat} (hne : f ≠ []) (hf : Row digit? f fs) :
      Mantissa ('.' :: f) [] fs

inductive Power : List Char → Int → Prop
  | absent : Power [] 0
  | present {m : Char} {t d : List Char} {s : Sign} {ds : List Nat} (hm : m = 'e' ∨ m = 'E')
      (ht : SignText t s) (hne : d ≠ []) (hd : Row digit? d ds) :
      Power (m :: (t ++ d)) (s.apply (ofDigits ds))

/-- A text that spells a literal. -/
inductive Spells : List Char → Literal → Prop
  | intro {t m p : List Char} {s : Sign} {ws fs : List Nat} {e : Int} (ht : SignText t s)
      (hm : Mantissa digit? m ws fs) (hp : Power digit? p e) :
      Spells (t ++ (m ++ p)) ⟨s, ws, fs, e⟩

end

/-! ## 2. Parts are taken whole -/

variable {digit? : Char → Option Nat}

theorem Row.ne_nil {cs : List Char} {ds : List Nat} (h : Row digit? cs ds) :
    cs ≠ [] ↔ ds ≠ [] := by
  cases h <;> simp

theorem takeDigits_append {cs rest : List Char} {ds : List Nat} (h : Row digit? cs ds)
    (hrest : ∀ c ∈ rest.head?, digit? c = none) :
    takeDigits digit? (cs ++ rest) = (ds, rest) := by
  induction h with
  | nil =>
    cases rest with
    | nil => rfl
    | cons c cs => simp [takeDigits, hrest c rfl]
  | cons hc _ ih => simp [takeDigits, hc, ih]

theorem takeDigits_row {cs : List Char} {ds : List Nat} (h : Row digit? cs ds) :
    takeDigits digit? cs = (ds, []) := by
  have hnil : ∀ c ∈ ([] : List Char).head?, digit? c = none := by simp
  have htake := takeDigits_append h hnil
  rwa [List.append_nil] at htake

theorem takeSign_append {t rest : List Char} {s : Sign} (h : SignText t s)
    (hrest : ∀ c ∈ rest.head?, c ≠ '+' ∧ c ≠ '-') : takeSign (t ++ rest) = (s, rest) := by
  cases h with
  | absent =>
    rw [List.nil_append]
    unfold takeSign
    split
    · exact absurd rfl (hrest '+' rfl).1
    · exact absurd rfl (hrest '-' rfl).2
    · rfl
  | plus => rfl
  | minus => rfl

/-- Without a point there is no fraction. -/
theorem takeFraction_of_head? {cs : List Char} (h : ∀ c ∈ cs.head?, c ≠ '.') :
    takeFraction digit? cs = ([], cs) := by
  unfold takeFraction
  split
  · exact absurd rfl (h '.' rfl)
  · rfl

theorem head?_power {p : List Char} {e : Int} (h : Power digit? p e) :
    ∀ c ∈ p.head?, c = 'e' ∨ c = 'E' := by
  cases h with
  | absent => simp
  | present hm => simpa using hm

section

variable (hmarks : AvoidsMarks digit?)

include hmarks

/-- The first of some digits is not a mark. -/
theorem Row.not_mem_marks {c : Char} {cs : List Char} {ds : List Nat}
    (h : Row digit? (c :: cs) ds) : c ∉ marks := by
  intro hc
  cases h with
  | cons hd =>
    rw [hmarks c hc] at hd
    cases hd

theorem Row.head?_append {cs : List Char} {ds : List Nat} (h : Row digit? cs ds) (hne : cs ≠ [])
    (rest : List Char) : ∀ c ∈ (cs ++ rest).head?, c ∉ marks := by
  obtain ⟨c, cs, rfl⟩ := List.exists_cons_of_ne_nil hne
  simpa using h.not_mem_marks hmarks

/-- What comes after a mantissa is left alone. -/
theorem exists_takeDigits_mantissa {m rest : List Char} {ws fs : List Nat}
    (h : Mantissa digit? m ws fs) (hrest : ∀ c ∈ rest.head?, c = 'e' ∨ c = 'E') :
    ∃ mid, takeDigits digit? (m ++ rest) = (ws, mid) ∧
      takeFraction digit? mid = (fs, rest) ∧ ¬ (ws = [] ∧ fs = []) := by
  have hdigit : ∀ c ∈ rest.head?, digit? c = none := by
    intro c hc
    rcases hrest c hc with rfl | rfl
    · exact hmarks 'e' (by decide)
    · exact hmarks 'E' (by decide)
  have hpoint : ∀ f : List Char, ∀ c ∈ ('.' :: f).head?, digit? c = none := by
    intro f c hc
    cases hc
    exact hmarks '.' (by decide)
  cases h with
  | whole hne hw =>
    refine ⟨rest, takeDigits_append hw hdigit, takeFraction_of_head? ?_, ?_⟩
    · intro c hc
      rcases hrest c hc with rfl | rfl <;> decide
    · simp [hw.ne_nil.mp hne]
  | point hne hw hf =>
    refine ⟨'.' :: _, ?_, takeDigits_append hf hdigit, ?_⟩
    · rw [List.append_assoc]
      exact takeDigits_append hw (hpoint _)
    · simp [hw.ne_nil.mp hne]
  | fraction hne hf =>
    refine ⟨'.' :: _, ?_, takeDigits_append hf hdigit, ?_⟩
    · exact takeDigits_append .nil (hpoint _)
    · simp [hf.ne_nil.mp hne]

/-- No mantissa begins with a sign. -/
theorem head?_mantissa {m : List Char} {ws fs : List Nat} (h : Mantissa digit? m ws fs)
    (rest : List Char) : ∀ c ∈ (m ++ rest).head?, c ≠ '+' ∧ c ≠ '-' := by
  have hsign : ∀ c, c ∉ marks → c ≠ '+' ∧ c ≠ '-' := by
    intro c hc
    constructor
    all_goals
      rintro rfl
      exact hc (by decide)
  cases h with
  | whole hne hw => exact fun c hc => hsign c (hw.head?_append hmarks hne rest c hc)
  | point hne hw =>
    rw [List.append_assoc]
    exact fun c hc => hsign c (hw.head?_append hmarks hne _ c hc)
  | fraction =>
    intro c hc
    cases hc
    decide

end

/-! ## 3. What is taken is a part -/

theorem exists_row {cs rest : List Char} {ds : List Nat}
    (h : takeDigits digit? cs = (ds, rest)) : ∃ row, cs = row ++ rest ∧ Row digit? row ds := by
  induction cs generalizing ds with
  | nil =>
    cases h
    exact ⟨[], rfl, .nil⟩
  | cons c cs ih =>
    cases hc : digit? c with
    | none =>
      simp only [takeDigits, hc] at h
      cases h
      exact ⟨[], rfl, .nil⟩
    | some d =>
      simp only [takeDigits, hc] at h
      cases h
      obtain ⟨row, hcs, hrow⟩ := ih rfl
      refine ⟨c :: row, ?_, .cons hc hrow⟩
      rw [List.cons_append, ← hcs]

theorem exists_signText {cs rest : List Char} {s : Sign} (h : takeSign cs = (s, rest)) :
    ∃ t, cs = t ++ rest ∧ SignText t s := by
  unfold takeSign at h
  split at h <;> cases h
  · exact ⟨['+'], rfl, .plus⟩
  · exact ⟨['-'], rfl, .minus⟩
  · exact ⟨[], rfl, .absent⟩

theorem exists_mantissa {cs mid rest : List Char} {ws fs : List Nat}
    (hw : takeDigits digit? cs = (ws, mid)) (hf : takeFraction digit? mid = (fs, rest))
    (hne : ¬ (ws = [] ∧ fs = [])) : ∃ m, cs = m ++ rest ∧ Mantissa digit? m ws fs := by
  obtain ⟨w, rfl, hrow⟩ := exists_row hw
  unfold takeFraction at hf
  split at hf
  · obtain ⟨f, rfl, hrow'⟩ := exists_row hf
    by_cases hwne : w = []
    · subst hwne
      cases hrow
      exact ⟨'.' :: f, rfl, .fraction (hrow'.ne_nil.mpr (by simpa using hne)) hrow'⟩
    · exact ⟨w ++ '.' :: f, by simp, .point hwne hrow hrow'⟩
  · cases hf
    exact ⟨w, rfl, .whole (hrow.ne_nil.mpr (by simpa using hne)) hrow⟩

/-! ## 4. The scanner -/

section

variable (hmarks : AvoidsMarks digit?)

include hmarks

/-- The power of ten is read by its rule. -/
theorem exponent?_eq_some_iff {cs : List Char} {e : Int} :
    exponent? digit? cs = some e ↔ Power digit? cs e := by
  constructor
  · intro h
    cases cs with
    | nil =>
      cases h
      exact .absent
    | cons c cs =>
      rcases hsign : takeSign cs with ⟨s, rest⟩
      simp only [exponent?, hsign] at h
      split at h
      · rename_i hc
        split at h
        · rename_i d ds hdigits
          cases h
          obtain ⟨t, rfl, ht⟩ := exists_signText hsign
          obtain ⟨row, rfl, hrow⟩ := exists_row hdigits
          rw [List.append_nil]
          exact .present hc ht (hrow.ne_nil.mpr (by simp)) hrow
        · cases h
      · cases h
  · intro h
    cases h with
    | absent => rfl
    | @present m t d s ds hm ht hne hd =>
      have hhead : ∀ c ∈ d.head?, c ≠ '+' ∧ c ≠ '-' := by
        have := head?_mantissa hmarks (.whole hne hd) []
        rwa [List.append_nil] at this
      obtain ⟨d₀, ds, rfl⟩ := List.exists_cons_of_ne_nil (hd.ne_nil.mp hne)
      simp only [exponent?, if_pos hm, takeSign_append ht hhead, takeDigits_row hd]

/-- The scanner accepts the texts of the grammar, each as the literal that
it spells. -/
theorem scan_eq_some_iff {cs : List Char} {l : Literal} :
    scan digit? cs = some l ↔ Spells digit? cs l := by
  constructor
  · intro h
    rcases hsign : takeSign cs with ⟨s, rest⟩
    rcases hdigits : takeDigits digit? rest with ⟨ws, mid⟩
    rcases hfraction : takeFraction digit? mid with ⟨fs, p⟩
    simp only [scan, hsign, hdigits, hfraction] at h
    split at h
    · cases h
    · rename_i hne
      obtain ⟨e, he, rfl⟩ := Option.map_eq_some_iff.mp h
      obtain ⟨t, rfl, ht⟩ := exists_signText hsign
      obtain ⟨m, rfl, hm⟩ := exists_mantissa hdigits hfraction hne
      exact .intro ht hm ((exponent?_eq_some_iff hmarks).mp he)
  · intro h
    cases h with
    | @intro t m p _ _ _ _ ht hm hp =>
      have hsign := takeSign_append ht (head?_mantissa hmarks hm p)
      obtain ⟨mid, hdigits, hfraction, hne⟩ :=
        exists_takeDigits_mantissa hmarks hm (head?_power hp)
      have hpower := (exponent?_eq_some_iff hmarks).mpr hp
      simp only [scan, hsign, hdigits, hfraction, if_neg hne, hpower, Option.map_some]

end

/-! ## 5. Values -/

/-- The exact value of a literal. -/
def value (l : Literal) : ℚ := l.sign.apply l.coefficient * 10 ^ l.power

end Literal

theorem avoidsMarks_digit? : AvoidsMarks digit? := by decide

theorem avoidsMarks_asciiDigit? : AvoidsMarks asciiDigit? := by decide

/-- A text that spells a literal of value `v`, in the digits of any
script. -/
def Denotes (t : String) (v : ℚ) : Prop := ∃ l, Literal.Spells digit? t.toList l ∧ l.value = v

theorem denotes_iff_scan {t : String} {v : ℚ} :
    Denotes t v ↔ ∃ l, Literal.scan digit? t.toList = some l ∧ l.value = v := by
  simp only [Denotes, Literal.scan_eq_some_iff avoidsMarks_digit?]

/-- A text denotes one value at most. -/
theorem Denotes.unique {t : String} {v w : ℚ} (hv : Denotes t v) (hw : Denotes t w) : v = w := by
  obtain ⟨l, hl, rfl⟩ := denotes_iff_scan.mp hv
  obtain ⟨m, hm, rfl⟩ := denotes_iff_scan.mp hw
  rw [hl, Option.some.injEq] at hm
  rw [hm]

end Quadratic.Decimal
