/-
Quadratic.Proofs.Capitals — when the capital form of a text spells a name.

A name is a row of ASCII capitals. Which texts become one is decided by few
characters: the ASCII letters, and eight ligatures and letters whose capital
form consists of ASCII letters (`asciiCapitals`). The mapping that settings are
read with knows no others; the full one knows some 1500, and every one of those
brings a character beyond ASCII into the capital form. So both spell the same
names.

* `uppercase_eq_iff` — the two mappings compared.
* `trim_append`, `exists_append_trim` — trimming, by what is taken away at
  either end.
* `exists_uppercase_iff` — both together, for white space.
-/
import Mathlib
import Quadratic.Text.Capital
import Quadratic.Text.Space
import Quadratic.Text.Uppercase

namespace Quadratic.Text

/-! ## 1. Capital forms -/

/-- A row of ASCII capitals. -/
def IsCapital (cs : List Char) : Prop := ∀ c ∈ cs, c.isUpper = true

instance (cs : List Char) : Decidable (IsCapital cs) :=
  decidable_of_iff (cs.all Char.isUpper = true) List.all_eq_true

/-- The characters beyond ASCII whose capital form is made of ASCII letters. -/
def asciiCapitals : List Nat :=
  [0xDF, 0x131, 0x17F, 0xFB00, 0xFB01, 0xFB02, 0xFB03, 0xFB04, 0xFB05, 0xFB06]

theorem upper_of_not_mem {c : Char} (h : c.toNat ∉ asciiCapitals) : upper c = [c.toUpper] := by
  unfold upper
  split
  all_goals first
    | rfl
    | (rename_i hc; exact absurd (by rw [hc]; decide) h)

/-- What is no ASCII letter, and is not listed, does not become one. -/
theorem not_isCapital_upper {c : Char} (hc : c.isAlpha = false) (h : c.toNat ∉ asciiCapitals) :
    ¬ IsCapital (upper c) := by
  rw [upper_of_not_mem h]
  intro hcapital
  have hupper := hcapital c.toUpper (List.mem_singleton.mpr rfl)
  rw [Char.isUpper_toUpper_eq_isAlpha, hc] at hupper
  cases hupper

theorem isAlpha_iff (c : Char) : c.isAlpha = true ↔
    (65 ≤ c.toNat ∧ c.toNat ≤ 90) ∨ (97 ≤ c.toNat ∧ c.toNat ≤ 122) := by
  simp [Char.isAlpha, Char.isUpper, Char.isLower, UInt32.le_iff_toNat_le, ← Char.toNat_val]

theorem isAlpha_of_not_ascii {c : Char} (hc : 0x80 ≤ c.toNat) : c.isAlpha = false := by
  rw [Bool.eq_false_iff, ne_eq, isAlpha_iff]
  omega

/-- A character beyond ASCII is no ASCII capital. -/
theorem not_isCapital_of_mem {c : Char} {cs : List Char} (hmem : c ∈ cs) (hc : 0x80 ≤ c.toNat) :
    ¬ IsCapital cs := by
  intro hcapital
  have halpha := isAlpha_of_not_ascii hc
  rw [Char.isAlpha, hcapital c hmem] at halpha
  cases halpha

/-- A capital form of several characters has one beyond ASCII among them. -/
theorem exists_of_longCapital? {n : Nat} (hn : n ∉ asciiCapitals) {codes : List Nat}
    (h : longCapital? n = some codes) : ∃ m ∈ codes, 0x80 ≤ (Char.ofNat m).toNat := by
  have hiota : 0x80 ≤ (Char.ofNat 0x399).toNat := by decide
  have htable : ∀ r ∈ longCapitals, r.1 ∉ asciiCapitals →
      ∃ m ∈ r.2, 0x80 ≤ (Char.ofNat m).toNat := by decide
  rw [longCapital?, Option.or_eq_some_iff] at h
  rcases h with h | ⟨-, h⟩
  · unfold withIota? at h
    split at h
    · exact ⟨0x399, Option.some.inj h ▸ by simp, hiota⟩
    · split at h
      · exact ⟨0x399, Option.some.inj h ▸ by simp, hiota⟩
      · split at h
        · exact ⟨0x399, Option.some.inj h ▸ by simp, hiota⟩
        · cases h
  · obtain ⟨r, hr, rfl⟩ := Option.map_eq_some_iff.mp h
    have hcode : r.1 = n := by simpa using List.find?_some hr
    exact htable r (List.mem_of_find?_eq_some hr) (hcode ▸ hn)

/-- A capital form of one character stays beyond ASCII. -/
theorem le_capitalCode {n : Nat} (hvalid : n.isValidChar) (hn : 0x80 ≤ n)
    (hcapital : n ∉ asciiCapitals) : 0x80 ≤ (Char.ofNat (capitalCode n)).toNat := by
  have hrows : ∀ r ∈ smallDistances, r.1 = r.2.1 ∧ r.1 ∈ asciiCapitals ∨
      0x80 ≤ r.1 + r.2.2 ∧ (r.2.1 + r.2.2 < 0xD800 ∨
        0xE000 ≤ r.1 + r.2.2 ∧ r.2.1 + r.2.2 < 0x110000) := by decide +kernel
  have hturns : ∀ r ∈ alternatingSmall, 0x81 ≤ r.1 ∧ r.2 < 0xD800 := by decide
  suffices h : (capitalCode n).isValidChar ∧ 0x80 ≤ capitalCode n by
    rw [Char.toNat_ofNat, if_pos h.1]
    exact h.2
  unfold capitalCode
  split
  · rename_i r lo hi d hfind
    have hr := hrows _ (List.mem_of_find?_eq_some hfind)
    have hrange : lo ≤ n ∧ n ≤ hi := by simpa using List.find?_some hfind
    rcases hr with ⟨hsingle, hmem⟩ | hr
    · have hlo : lo = n := by
        dsimp only at hsingle
        omega
      exact absurd (hlo ▸ hmem) hcapital
    · dsimp only at hr
      unfold Nat.isValidChar
      omega
  · split
    · rename_i hany
      obtain ⟨r, hr, hrange⟩ := List.any_eq_true.mp hany
      have hbounds := hturns r hr
      simp only [Bool.and_eq_true, decide_eq_true_eq] at hrange
      unfold Nat.isValidChar
      omega
    · exact ⟨hvalid, hn⟩

/-- The two mappings agree on every character that becomes a row of ASCII
capitals under one of them. -/
theorem capitalForm_cases (c : Char) : upper c = capitalForm c ∨
    ¬ IsCapital (upper c) ∧ ¬ IsCapital (capitalForm c) := by
  have hlisted : ∀ n ∈ asciiCapitals, upper (Char.ofNat n) = capitalForm (Char.ofNat n) := by decide
  have hlow : ∀ n ∈ asciiCapitals, 0x80 ≤ n := by decide
  by_cases hmem : c.toNat ∈ asciiCapitals
  · left
    have h := hlisted _ hmem
    rwa [Char.ofNat_toNat] at h
  by_cases hascii : c.toNat < 0x80
  · left
    rw [upper_of_not_mem hmem, capitalForm, if_pos hascii]
  right
  have hc : 0x80 ≤ c.toNat := Nat.not_lt.mp hascii
  refine ⟨not_isCapital_upper (isAlpha_of_not_ascii hc) hmem, ?_⟩
  rw [capitalForm, if_neg hascii]
  cases hlong : longCapital? c.toNat with
  | some codes =>
    obtain ⟨m, hm, hcode⟩ := exists_of_longCapital? hmem hlong
    exact not_isCapital_of_mem (List.mem_map_of_mem hm) hcode
  | none =>
    exact not_isCapital_of_mem (List.mem_singleton.mpr rfl) (le_capitalCode c.valid hc hmem)

theorem isCapital_of_mem_flatMap {f : Char → List Char} {cs : List Char}
    (h : IsCapital (cs.flatMap f)) {c : Char} (hc : c ∈ cs) : IsCapital (f c) :=
  fun d hd => h d (List.mem_flatMap.mpr ⟨c, hc, hd⟩)

/-- The full mapping spells a name exactly if the other one does. -/
theorem uppercase_eq_iff {name : List Char} (hname : IsCapital name) (cs : List Char) :
    uppercase cs = name ↔ cs.flatMap upper = name := by
  constructor
  · rintro rfl
    refine List.flatMap_congr fun c hc => ?_
    exact (capitalForm_cases c).resolve_right fun h => h.2 (isCapital_of_mem_flatMap hname hc)
  · rintro rfl
    refine List.flatMap_congr fun c hc => ?_
    exact ((capitalForm_cases c).resolve_right fun h => h.1 (isCapital_of_mem_flatMap hname hc)).symm

/-! ## 2. Trimming -/

section

variable {p : Char → Bool}

theorem dropWhile_of_forall {cs : List Char} (h : ∀ c ∈ cs, p c = false) : cs.dropWhile p = cs := by
  cases cs with
  | nil => rfl
  | cons c cs => exact List.dropWhile_cons_of_neg (by simp [h c (List.mem_cons_self ..)])

/-- What is between two rows of characters of the class, and has none itself, is
what trimming leaves. -/
theorem trim_append {before core after : List Char} (hbefore : ∀ c ∈ before, p c = true)
    (hcore : ∀ c ∈ core, p c = false) (hafter : ∀ c ∈ after, p c = true) :
    trim p (before ++ core ++ after) = core := by
  have hafter' : ∀ c ∈ after.reverse, p c = true := fun c hc => hafter c (List.mem_reverse.mp hc)
  have hcore' : ∀ c ∈ core.reverse, p c = false := fun c hc => hcore c (List.mem_reverse.mp hc)
  rw [trim, List.append_assoc, List.dropWhile_append_of_pos hbefore]
  cases core with
  | nil => rw [List.nil_append, List.dropWhile_eq_nil_iff.mpr hafter]; rfl
  | cons c core =>
    have hc : ¬ p c = true := by simp [hcore c (List.mem_cons_self ..)]
    rw [List.cons_append, List.dropWhile_cons_of_neg hc, ← List.cons_append, List.reverse_append,
      List.dropWhile_append_of_pos hafter', dropWhile_of_forall hcore', List.reverse_reverse]

/-- Trimming takes away nothing but characters of the class. -/
theorem exists_append_trim (p : Char → Bool) (cs : List Char) : ∃ before after,
    cs = before ++ trim p cs ++ after ∧ (∀ c ∈ before, p c = true) ∧ ∀ c ∈ after, p c = true := by
  refine ⟨cs.takeWhile p, (cs.dropWhile p).rtakeWhile p, ?_, fun c => List.mem_takeWhile_imp,
    fun c => List.mem_rtakeWhile_imp⟩
  have hright : trim p cs ++ (cs.dropWhile p).rtakeWhile p = cs.dropWhile p :=
    List.rdropWhile_append_rtakeWhile
  rw [List.append_assoc, hright, List.takeWhile_append_dropWhile]

end

/-! ## 3. Names with white space around them -/

theorem not_isCapital_of_isSpace {c : Char} (hc : isSpace c = true) : ¬ IsCapital (upper c) := by
  simp only [isSpace, isBlank, Bool.or_eq_true, Bool.and_eq_true, decide_eq_true_eq] at hc
  refine not_isCapital_upper ?_ ?_
  · rw [Bool.eq_false_iff, ne_eq, isAlpha_iff]
    omega
  · simp only [asciiCapitals, List.mem_cons, List.not_mem_nil, or_false]
    omega

/-- A text is a name with white space around it, up to the capital forms of
Unicode, exactly if the name is what is left by trimming and by the capital
forms that settings are read with. -/
theorem exists_uppercase_iff {name : List Char} (hname : IsCapital name) (cs : List Char) :
    (∃ before core after, cs = before ++ core ++ after ∧ (∀ c ∈ before, isSpace c = true) ∧
      (∀ c ∈ after, isSpace c = true) ∧ uppercase core = name) ↔
      (trim isSpace cs).flatMap upper = name := by
  constructor
  · rintro ⟨before, core, after, rfl, hbefore, hafter, hcore⟩
    rw [uppercase_eq_iff hname] at hcore
    have hword : ∀ c ∈ core, isSpace c = false := by
      intro c hc
      rw [Bool.eq_false_iff]
      intro hspace
      exact not_isCapital_of_isSpace hspace (isCapital_of_mem_flatMap (hcore ▸ hname) hc)
    rw [trim_append hbefore hword hafter, hcore]
  · intro htrim
    obtain ⟨before, after, hcs, hbefore, hafter⟩ := exists_append_trim isSpace cs
    exact ⟨before, _, after, hcs, hbefore, hafter, (uppercase_eq_iff hname _).mpr htrim⟩

end Quadratic.Text
