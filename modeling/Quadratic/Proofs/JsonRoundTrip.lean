/-
Quadratic.Proofs.JsonRoundTrip — a JSON text is read as the value that
was written, and it is one line.

Every value is closed off by what comes after it (`Follows`): a comma, a
bracket, or the end of the text. Under that condition the reader takes
the text of a value whole, and nothing else, so the texts of the parts
can be read one after the other. The depth that the reader is given is
the length of the text, and every step into a part leaves at least one
character behind.

* `takeString?_append` — strings, with the escapes in them.
* `takeValue?_append` — all values, by induction on them.
* `ofText?_text` — a whole text.
* `isVisible_of_mem_text` — no character of a text is a control.
-/
import Quadratic.Proofs.JsonNumber

namespace Quadratic

namespace Json

open Decimal

/-! ## 1. Strings -/

theorem hexDigit?_digitChar : ∀ d < 16, hexDigit? (Nat.digitChar d) = some d := by decide

/-- Four hexadecimal digits are read as the number that they spell. -/
theorem hexFour?_hex {n : Nat} (hn : n < 0x10000) (rest : List Char) :
    hexFour? (Text.hex 4 n ++ rest) = some (n, rest) := by
  have hhex : Text.hex 4 n = [Nat.digitChar (n / 4096 % 16), Nat.digitChar (n / 256 % 16),
      Nat.digitChar (n / 16 % 16), Nat.digitChar (n / 1 % 16)] := rfl
  have hdigit : ∀ m, hexDigit? (Nat.digitChar (m % 16)) = some (m % 16) := fun m =>
    hexDigit?_digitChar (m % 16) (Nat.mod_lt m (by decide))
  have hsum : ((n / 4096 % 16 * 16 + n / 256 % 16) * 16 + n / 16 % 16) * 16 + n / 1 % 16 = n := by
    omega
  rw [hhex]
  simp only [List.cons_append, List.nil_append, hexFour?, hdigit, Option.bind_eq_bind,
    Option.bind_some, hsum]
  rfl

theorem charOf?_toNat (c : Char) : charOf? c.toNat = some c := by
  have hvalid : c.toNat.isValidChar := c.valid
  have h := Char.ofNat_toNat c
  rw [Char.ofNat, dif_pos hvalid] at h
  rw [charOf?, dif_pos hvalid, h]

theorem unicodeEscape?_hex {c : Char} (hc : c.toNat < 0x20) (rest : List Char) :
    unicodeEscape? (Text.hex 4 c.toNat ++ rest) = some (c, rest) := by
  rw [unicodeEscape?, hexFour?_hex (by omega)]
  dsimp only
  rw [if_neg (by omega), charOf?_toNat, Option.map_some]

/-- A character is written with a letter that stands for it, as a code
point, or as it is. -/
theorem escapeChar_cases (c : Char) :
    (∃ l, l ≠ 'u' ∧ escapedLetter? l = some c ∧ escapeChar c = ['\\', l]) ∨
      (c.toNat < 0x20 ∧ escapeChar c = '\\' :: 'u' :: Text.hex 4 c.toNat) ∨
      (0x20 ≤ c.toNat ∧ c ≠ '"' ∧ c ≠ '\\' ∧ escapeChar c = [c]) := by
  by_cases hquote : c = '"'
  · subst hquote
    exact .inl ⟨'"', by decide, rfl, rfl⟩
  by_cases hbackslash : c = '\\'
  · subst hbackslash
    exact .inl ⟨'\\', by decide, rfl, rfl⟩
  by_cases hn : c = '\n'
  · subst hn
    exact .inl ⟨'n', by decide, rfl, rfl⟩
  by_cases hr : c = '\r'
  · subst hr
    exact .inl ⟨'r', by decide, rfl, rfl⟩
  by_cases ht : c = '\t'
  · subst ht
    exact .inl ⟨'t', by decide, rfl, rfl⟩
  by_cases hb : c = '\x08'
  · subst hb
    exact .inl ⟨'b', by decide, rfl, rfl⟩
  by_cases hf : c = '\x0c'
  · subst hf
    exact .inl ⟨'f', by decide, rfl, rfl⟩
  have hb' : ¬ c.toNat = 0x8 := fun h => hb (Char.toNat_inj.mp h)
  have hf' : ¬ c.toNat = 0xC := fun h => hf (Char.toNat_inj.mp h)
  unfold escapeChar
  rw [if_neg hquote, if_neg hbackslash, if_neg hn, if_neg hr, if_neg ht, if_neg hb', if_neg hf']
  by_cases hcontrol : c.toNat < 0x20
  · exact .inr (.inl ⟨hcontrol, if_pos hcontrol⟩)
  · exact .inr (.inr ⟨Nat.not_lt.mp hcontrol, hquote, hbackslash, if_neg hcontrol⟩)

/-- A character of a string is read back. -/
theorem takeString?_escapeChar (n : Nat) (c : Char) (rest : List Char) :
    takeString? (n + 1) (escapeChar c ++ rest) =
      (takeString? n rest).map fun r => (c :: r.1, r.2) := by
  rcases escapeChar_cases c with ⟨l, hu, hl, hc⟩ | ⟨hcontrol, hc⟩ | ⟨hvisible, hquote, hbackslash, hc⟩
  · rw [hc, List.cons_append, List.singleton_append, takeString?]
    · rw [hl]
    · exact hu
  · rw [hc, List.cons_append, List.cons_append, takeString?, unicodeEscape?_hex hcontrol]
  · rw [hc, List.singleton_append, takeString?]
    · rw [if_neg (not_or.mpr ⟨Nat.not_lt.mpr hvisible, hbackslash⟩)]
    all_goals simp_all

/-- A string is read up to its closing quote. -/
theorem takeString?_append (cs rest : List Char) {n : Nat} (hn : cs.length < n) :
    takeString? n (cs.flatMap escapeChar ++ '"' :: rest) = some (cs, rest) := by
  induction cs generalizing n with
  | nil =>
    obtain ⟨m, rfl⟩ := Nat.exists_eq_add_of_lt hn
    rfl
  | cons c cs ih =>
    obtain ⟨m, rfl⟩ : ∃ m, n = m + 1 := ⟨n - 1, by omega⟩
    rw [List.flatMap_cons, List.append_assoc, takeString?_escapeChar, ih (by simpa using hn)]
    rfl

theorem length_le_escaped (cs : List Char) : cs.length ≤ (cs.flatMap escapeChar).length := by
  induction cs with
  | nil => exact Nat.le_refl 0
  | cons c cs ih =>
    have hc : 0 < (escapeChar c).length := by
      rcases escapeChar_cases c with ⟨l, -, -, hc⟩ | ⟨-, hc⟩ | ⟨-, -, -, hc⟩
      all_goals
        rw [hc]
        exact Nat.succ_pos _
    rw [List.flatMap_cons, List.length_append, List.length_cons]
    omega

theorem stringChars_append (s : String) (rest : List Char) :
    stringChars s ++ rest = '"' :: (s.toList.flatMap escapeChar ++ '"' :: rest) := by
  rw [stringChars, List.append_assoc, List.cons_append, List.singleton_append]

/-- The reader allows for as many characters as there are. -/
theorem takeString?_stringChars (s : String) (rest : List Char) :
    takeString? ((s.toList.flatMap escapeChar ++ '"' :: rest).length + 1)
      (s.toList.flatMap escapeChar ++ '"' :: rest) = some (s.toList, rest) := by
  refine takeString?_append _ _ ?_
  have h := length_le_escaped s.toList
  rw [List.length_append]
  omega

/-! ## 2. Single values -/

/-- The characters that can stand before a value, and the one that closes
an array. -/
def before : List Char := [' ', '\n', '\r', '\t', ']']

theorem skipSpace_of_not_mem {c : Char} (hc : c ∉ before) (cs : List Char) :
    skipSpace (c :: cs) = c :: cs := by
  simp only [before, List.mem_cons, List.not_mem_nil, or_false, not_or] at hc
  rw [skipSpace, if_neg (by simp [hc])]

theorem not_mem_before_of_isDigit {c : Char} (hc : c.isDigit = true) : c ∉ before := by
  intro hmem
  simp only [before, List.mem_cons, List.not_mem_nil, or_false] at hmem
  rcases hmem with rfl | rfl | rfl | rfl | rfl <;> cases hc

/-- Space before a value is skipped. -/
theorem takeValue?_space (n : Nat) (cs : List Char) :
    takeValue? n (' ' :: cs) = takeValue? n cs := by
  have hspace : skipSpace (' ' :: cs) = skipSpace cs := rfl
  cases n with
  | zero => rfl
  | succ n => rw [takeValue?, takeValue?, hspace]

theorem takeValue?_digit (n : Nat) {c : Char} (hc : c.isDigit = true) (cs : List Char) :
    takeValue? (n + 1) (c :: cs) = takeNumber? .plus (c :: cs) := by
  rw [takeValue?, skipSpace_of_not_mem (not_mem_before_of_isDigit hc)]
  split
  all_goals first
    | (rename_i h; cases h; cases hc)
    | rfl

theorem takeValue?_minus (n : Nat) {c : Char} (hc : c.isDigit = true) (cs : List Char) :
    takeValue? (n + 1) ('-' :: c :: cs) = takeNumber? .minus (c :: cs) := by
  rw [takeValue?, skipSpace_of_not_mem (by decide)]
  split <;> rename_i h
  all_goals first
    | (cases h; done)
    | (cases h; cases hc)
    | (cases h; rfl)
    | exact (h _ rfl).elim

theorem takeValue?_string (n : Nat) (s : String) (rest : List Char) :
    takeValue? (n + 1) (stringChars s ++ rest) = some (string s, rest) := by
  have htake : ∀ cs, takeValue? (n + 1) ('"' :: cs) =
      (takeString? (cs.length + 1) cs).map fun r => (string (String.ofList r.1), r.2) := fun _ => rfl
  rw [stringChars_append, htake, takeString?_stringChars, Option.map_some, String.ofList_toList]

theorem exists_digit_toDigits (n : Nat) :
    ∃ c cs, Nat.toDigits 10 n = c :: cs ∧ c.isDigit = true := by
  obtain ⟨c, cs, h⟩ := List.exists_cons_of_ne_nil (Nat.toDigits_ne_nil (b := 10) (n := n))
  exact ⟨c, cs, h, allDigits_toDigits n c (h ▸ List.mem_cons_self ..)⟩

theorem takeValue?_int (n : Nat) (i : Int) {rest : List Char} (hrest : Follows rest) :
    takeValue? (n + 1) (intChars i ++ rest) = some (int i, rest) := by
  obtain ⟨c, cs, hcs, hc⟩ := exists_digit_toDigits i.natAbs
  rw [intChars]
  split
  · have hvalue : Sign.minus.apply i.natAbs = i := by rw [Sign.apply]; omega
    rw [hcs, List.cons_append, List.cons_append, takeValue?_minus n hc, ← List.cons_append, ← hcs,
      takeNumber?_toDigits .minus _ hrest, hvalue]
  · have hvalue : Sign.plus.apply i.natAbs = i := by rw [Sign.apply]; omega
    rw [hcs, List.cons_append, takeValue?_digit n hc, ← List.cons_append, ← hcs,
      takeNumber?_toDigits .plus _ hrest, hvalue]

theorem takeValue?_real (n : Nat) (x : Binary64) {rest : List Char} (hrest : Follows rest) :
    takeValue? (n + 1) (Style.json.chars x ++ rest) = some (real x, rest) := by
  cases x with
  | nan => rfl
  | infinity s => cases s <;> rfl
  | finite s k =>
    have hspelled := spelled_magnitude k
    obtain ⟨c, cs, hcs, hc⟩ := hspelled.exists_digit
    rw [Style.chars]
    cases s with
    | plus =>
      rw [signChars, List.nil_append, hcs, List.cons_append, takeValue?_digit n hc,
        ← List.cons_append, ← hcs, hspelled.takeNumber? .plus hrest]
    | minus =>
      rw [signChars, List.singleton_append, hcs, List.cons_append, List.cons_append,
        takeValue?_minus n hc, ← List.cons_append, ← hcs, hspelled.takeNumber? .minus hrest]

/-- The text of a value begins with a character that is not skipped. -/
theorem exists_first (j : Json) : ∃ c cs, j.chars = c :: cs ∧ c ∉ before := by
  cases j with
  | null => exact ⟨'n', _, rfl, by decide⟩
  | bool b => cases b <;> exact ⟨_, _, rfl, by decide⟩
  | int i =>
    obtain ⟨c, cs, hcs, hc⟩ := exists_digit_toDigits i.natAbs
    rw [chars, intChars]
    split
    · exact ⟨'-', _, rfl, by decide⟩
    · exact ⟨c, cs, hcs, not_mem_before_of_isDigit hc⟩
  | real x =>
    rw [chars]
    cases x with
    | nan => exact ⟨'N', _, rfl, by decide⟩
    | infinity s => cases s <;> exact ⟨_, _, rfl, by decide⟩
    | finite s k =>
      obtain ⟨c, cs, hcs, hc⟩ := (spelled_magnitude k).exists_digit
      rw [Style.chars, hcs]
      cases s with
      | plus => exact ⟨c, cs, rfl, not_mem_before_of_isDigit hc⟩
      | minus => exact ⟨'-', _, rfl, by decide⟩
  | string s => exact ⟨'"', _, rfl, by decide⟩
  | array xs => cases xs <;> exact ⟨'[', _, rfl, by decide⟩
  | object ms => cases ms <;> exact ⟨'\x7b', _, rfl, by decide⟩

/-! ## 3. Arrays and objects -/

theorem takeValue?_array {n : Nat} {x : Json} {xs : List Json} {mid rest : List Char}
    (hx : takeValue? n (x.chars ++ mid) = some (x, mid))
    (hxs : takeElements? n mid = some (xs, rest)) :
    takeValue? (n + 1) ('[' :: (x.chars ++ mid)) = some (array (x :: xs), rest) := by
  obtain ⟨c, cs, hcs, hc⟩ := exists_first x
  have hopen : skipSpace ('[' :: (x.chars ++ mid)) = '[' :: (x.chars ++ mid) :=
    skipSpace_of_not_mem (by decide) _
  have hspace : skipSpace (x.chars ++ mid) = x.chars ++ mid := by
    rw [hcs, List.cons_append, skipSpace_of_not_mem hc]
  -- The first element is not taken for the end of the array.
  have hclose : ∀ cs, x.chars ++ mid ≠ ']' :: cs := by
    intro cs h
    rw [hcs, List.cons_append] at h
    exact hc ((List.cons.inj h).1 ▸ by decide)
  simp only [takeValue?, hopen, hspace, hx, hxs, Option.map_some]

/-- A key, a colon and a value. -/
theorem takeMember?_append {n : Nat} (k : String) {v : Json} {rest : List Char}
    (hv : takeValue? n (v.chars ++ rest) = some (v, rest)) :
    takeMember? (n + 1) (stringChars k ++ ':' :: ' ' :: (v.chars ++ rest)) =
      some ((k, v), rest) := by
  have hquote : ∀ cs, skipSpace ('"' :: cs) = '"' :: cs := skipSpace_of_not_mem (by decide)
  have hcolon : ∀ cs, skipSpace (':' :: cs) = ':' :: cs := skipSpace_of_not_mem (by decide)
  rw [stringChars_append]
  simp only [takeMember?, hquote, takeString?_stringChars, hcolon, takeValue?_space, hv,
    Option.map_some, String.ofList_toList]

theorem takeValue?_object {n : Nat} {k : String} {m : String × Json} {ms : List (String × Json)}
    {mid mid' rest : List Char} (hm : takeMember? n (stringChars k ++ mid) = some (m, mid'))
    (hms : takeMembers? n mid' = some (ms, rest)) :
    takeValue? (n + 1) ('\x7b' :: (stringChars k ++ mid)) = some (object (m :: ms), rest) := by
  have hopen : skipSpace ('\x7b' :: (stringChars k ++ mid)) = '\x7b' :: (stringChars k ++ mid) :=
    skipSpace_of_not_mem (by decide) _
  have hspace : skipSpace (stringChars k ++ mid) = stringChars k ++ mid := by
    rw [stringChars_append, skipSpace_of_not_mem (by decide)]
  -- The first key is not taken for the end of the object.
  have hclose : ∀ cs, stringChars k ++ mid ≠ '\x7d' :: cs := by
    intro cs h
    rw [stringChars_append] at h
    cases h
  simp only [takeValue?, hopen, hspace, hm, hms, Option.map_some]

theorem takeElements?_cons {n : Nat} {x : Json} {xs : List Json} {mid rest : List Char}
    (hx : takeValue? n (x.chars ++ mid) = some (x, mid))
    (hxs : takeElements? n mid = some (xs, rest)) :
    takeElements? (n + 1) (',' :: ' ' :: (x.chars ++ mid)) = some (x :: xs, rest) := by
  have hcomma : ∀ cs, skipSpace (',' :: cs) = ',' :: cs := skipSpace_of_not_mem (by decide)
  simp only [takeElements?, hcomma, takeValue?_space, hx, hxs, Option.map_some]

theorem takeMember?_space (n : Nat) (cs : List Char) :
    takeMember? n (' ' :: cs) = takeMember? n cs := by
  have hspace : skipSpace (' ' :: cs) = skipSpace cs := rfl
  cases n with
  | zero => rfl
  | succ n => rw [takeMember?, takeMember?, hspace]

theorem takeMembers?_cons {n : Nat} {k : String} {m : String × Json} {ms : List (String × Json)}
    {mid mid' rest : List Char} (hm : takeMember? n (stringChars k ++ mid) = some (m, mid'))
    (hms : takeMembers? n mid' = some (ms, rest)) :
    takeMembers? (n + 1) (',' :: ' ' :: (stringChars k ++ mid)) = some (m :: ms, rest) := by
  have hcomma : ∀ cs, skipSpace (',' :: cs) = ',' :: cs := skipSpace_of_not_mem (by decide)
  simp only [takeMembers?, hcomma, takeMember?_space, hm, hms, Option.map_some]

theorem follows_elementsTail (xs : List Json) (rest : List Char) :
    Follows (elementsTail xs ++ rest) := by
  intro c hc
  cases xs with
  | nil => exact Option.some.inj hc ▸ by decide
  | cons x xs => exact Option.some.inj hc ▸ by decide

theorem follows_membersTail (ms : List (String × Json)) (rest : List Char) :
    Follows (membersTail ms ++ rest) := by
  intro c hc
  cases ms with
  | nil => exact Option.some.inj hc ▸ by decide
  | cons m ms => exact Option.some.inj hc ▸ by decide

/-! ## 4. All values -/

theorem chars_array_append (x : Json) (xs : List Json) (rest : List Char) :
    (array (x :: xs)).chars ++ rest = '[' :: (x.chars ++ (elementsTail xs ++ rest)) := by
  rw [chars, List.cons_append, List.cons_append, List.append_assoc]

theorem chars_object_append (k : String) (v : Json) (ms : List (String × Json)) (rest : List Char) :
    (object ((k, v) :: ms)).chars ++ rest =
      '\x7b' :: (stringChars k ++ ':' :: ' ' :: (v.chars ++ (membersTail ms ++ rest))) := by
  simp only [chars, List.cons_append, List.append_assoc]

theorem elementsTail_cons_append (x : Json) (xs : List Json) (rest : List Char) :
    elementsTail (x :: xs) ++ rest = ',' :: ' ' :: (x.chars ++ (elementsTail xs ++ rest)) := by
  simp only [elementsTail, List.cons_append, List.append_assoc]

theorem membersTail_cons_append (k : String) (v : Json) (ms : List (String × Json))
    (rest : List Char) : membersTail ((k, v) :: ms) ++ rest =
      ',' :: ' ' :: (stringChars k ++ ':' :: ' ' :: (v.chars ++ (membersTail ms ++ rest))) := by
  simp only [membersTail, List.cons_append, List.append_assoc]

mutual

/-- A value is read back, whatever its depth. -/
theorem takeValue?_append (j : Json) {n : Nat} (hn : j.chars.length ≤ n) {rest : List Char}
    (hrest : Follows rest) : takeValue? n (j.chars ++ rest) = some (j, rest) := by
  obtain ⟨m, rfl⟩ : ∃ m, n = m + 1 := by
    obtain ⟨c, cs, hcs, -⟩ := exists_first j
    rw [hcs, List.length_cons] at hn
    exact ⟨n - 1, by omega⟩
  match j with
  | null => rfl
  | bool true => rfl
  | bool false => rfl
  | int i => exact takeValue?_int m i hrest
  | real x => exact takeValue?_real m x hrest
  | string s => exact takeValue?_string m s rest
  | array [] => rfl
  | array (x :: xs) =>
    simp only [chars, List.length_cons, List.length_append] at hn
    have hx := takeValue?_append x (n := m) (by omega) (follows_elementsTail xs rest)
    have hxs := takeElements?_append xs (n := m) (by omega) rest
    rw [chars_array_append]
    exact takeValue?_array hx hxs
  | object [] => rfl
  | object ((k, v) :: ms) =>
    simp only [chars, List.length_cons, List.length_append] at hn
    obtain ⟨l, rfl⟩ : ∃ l, m = l + 1 := ⟨m - 1, by omega⟩
    have hv := takeValue?_append v (n := l) (by omega) (follows_membersTail ms rest)
    have hms := takeMembers?_append ms (n := l + 1) (by omega) rest
    rw [chars_object_append]
    exact takeValue?_object (takeMember?_append k hv) hms

theorem takeElements?_append (xs : List Json) {n : Nat} (hn : (elementsTail xs).length ≤ n)
    (rest : List Char) : takeElements? n (elementsTail xs ++ rest) = some (xs, rest) := by
  match xs with
  | [] =>
    obtain ⟨m, rfl⟩ := Nat.exists_eq_add_of_lt (show 0 < n from hn)
    rfl
  | x :: xs =>
    simp only [elementsTail, List.length_cons, List.length_append] at hn
    obtain ⟨m, rfl⟩ : ∃ m, n = m + 1 := ⟨n - 1, by omega⟩
    have hx := takeValue?_append x (n := m) (by omega) (follows_elementsTail xs rest)
    have hxs := takeElements?_append xs (n := m) (by omega) rest
    rw [elementsTail_cons_append]
    exact takeElements?_cons hx hxs

theorem takeMembers?_append (ms : List (String × Json)) {n : Nat}
    (hn : (membersTail ms).length ≤ n) (rest : List Char) :
    takeMembers? n (membersTail ms ++ rest) = some (ms, rest) := by
  match ms with
  | [] =>
    obtain ⟨m, rfl⟩ := Nat.exists_eq_add_of_lt (show 0 < n from hn)
    rfl
  | (k, v) :: ms =>
    simp only [membersTail, List.length_cons, List.length_append] at hn
    obtain ⟨m, rfl⟩ : ∃ m, n = m + 2 := ⟨n - 2, by omega⟩
    have hv := takeValue?_append v (n := m) (by omega) (follows_membersTail ms rest)
    have hms := takeMembers?_append ms (n := m + 1) (by omega) rest
    rw [membersTail_cons_append]
    exact takeMembers?_cons (takeMember?_append k hv) hms

end

/-- A whole text is read as the value that was written. -/
theorem ofText?_text (j : Json) : ofText? j.text = some j := by
  have hend : Follows [] := nofun
  have htake := takeValue?_append j (n := 2 * j.chars.length + 2) (by omega) hend
  rw [List.append_nil] at htake
  rw [ofText?, text, String.toList_ofList, ofChars?, htake]
  rfl

/-! ## 5. One line -/

/-- A character from U+0020 on. Below that are the control characters, all
line ends of the ASCII range among them. -/
def IsVisible (c : Char) : Prop := 0x20 ≤ c.toNat

instance (c : Char) : Decidable (IsVisible c) := inferInstanceAs (Decidable (0x20 ≤ c.toNat))

theorem isVisible_of_isDigit {c : Char} (hc : c.isDigit = true) : IsVisible c := by
  rw [isDigit_iff] at hc
  exact Nat.le_trans (by decide) hc.1

theorem isVisible_of_isNumberChar {c : Char} (h : IsNumberChar c) : IsVisible c := by
  have hmarks : ∀ c ∈ marks, IsVisible c := by decide
  rcases h with hdigit | hmark
  · exact isVisible_of_isDigit hdigit
  · exact hmarks c hmark

theorem isVisible_of_escapedLetter? {l c : Char} (h : escapedLetter? l = some c) : IsVisible l := by
  unfold escapedLetter? at h
  split at h
  all_goals first
    | decide
    | cases h

theorem isVisible_escapeChar (c : Char) : ∀ d ∈ escapeChar c, IsVisible d := by
  have hdigit : ∀ n < 16, IsVisible (Nat.digitChar n) := by decide
  intro d hd
  rcases escapeChar_cases c with ⟨l, -, hl, hc⟩ | ⟨-, hc⟩ | ⟨hvisible, -, -, hc⟩
  · rw [hc, List.mem_cons, List.mem_singleton] at hd
    rcases hd with rfl | rfl
    · decide
    · exact isVisible_of_escapedLetter? hl
  · rw [hc, List.mem_cons, List.mem_cons, Text.hex, List.mem_map] at hd
    rcases hd with rfl | rfl | ⟨i, -, rfl⟩
    · decide
    · decide
    · exact hdigit _ (Nat.mod_lt _ (by decide))
  · rw [hc, List.mem_singleton] at hd
    exact hd ▸ hvisible

theorem isVisible_stringChars (s : String) : ∀ c ∈ stringChars s, IsVisible c := by
  intro c hc
  simp only [stringChars, List.cons_append, List.mem_cons, List.mem_append, List.mem_flatMap,
    List.not_mem_nil, or_false] at hc
  rcases hc with rfl | ⟨d, -, hd⟩ | rfl
  · decide
  · exact isVisible_escapeChar d c hd
  · decide

theorem isVisible_int (i : Int) : ∀ c ∈ intChars i, IsVisible c := by
  have hdigits : ∀ c ∈ Nat.toDigits 10 i.natAbs, IsVisible c := fun c hc =>
    isVisible_of_isDigit (allDigits_toDigits _ c hc)
  intro c hc
  rw [intChars] at hc
  split at hc
  · rcases List.mem_cons.mp hc with rfl | hc
    · decide
    · exact hdigits c hc
  · exact hdigits c hc

theorem isVisible_real (x : Binary64) : ∀ c ∈ Style.json.chars x, IsVisible c := by
  cases x with
  | nan => decide
  | infinity s => cases s <;> decide
  | finite s k =>
    have hmagnitude : ∀ c ∈ Style.json.magnitude k, IsVisible c := fun c hc =>
      isVisible_of_isNumberChar ((spelled_magnitude k).isNumberChar c hc)
    intro c hc
    rw [Style.chars] at hc
    cases s with
    | plus => exact hmagnitude c hc
    | minus =>
      rcases List.mem_cons.mp hc with rfl | hc
      · decide
      · exact hmagnitude c hc

mutual

/-- No character of a value is a control character. -/
theorem isVisible_chars (j : Json) : ∀ c ∈ j.chars, IsVisible c := by
  match j with
  | null => decide
  | bool true => decide
  | bool false => decide
  | int i => exact isVisible_int i
  | real x => exact isVisible_real x
  | string s => exact isVisible_stringChars s
  | array [] => decide
  | array (x :: xs) =>
    intro c hc
    simp only [chars, List.cons_append, List.mem_cons, List.mem_append] at hc
    rcases hc with rfl | hc | hc
    · decide
    · exact isVisible_chars x c hc
    · exact isVisible_elementsTail xs c hc
  | object [] => decide
  | object ((k, v) :: ms) =>
    intro c hc
    simp only [chars, List.cons_append, List.append_assoc, List.mem_cons, List.mem_append] at hc
    rcases hc with rfl | hc | rfl | rfl | hc | hc
    · decide
    · exact isVisible_stringChars k c hc
    · decide
    · decide
    · exact isVisible_chars v c hc
    · exact isVisible_membersTail ms c hc

theorem isVisible_elementsTail (xs : List Json) : ∀ c ∈ elementsTail xs, IsVisible c := by
  match xs with
  | [] => decide
  | x :: xs =>
    intro c hc
    simp only [elementsTail, List.cons_append, List.mem_cons, List.mem_append] at hc
    rcases hc with rfl | rfl | hc | hc
    · decide
    · decide
    · exact isVisible_chars x c hc
    · exact isVisible_elementsTail xs c hc

theorem isVisible_membersTail (ms : List (String × Json)) :
    ∀ c ∈ membersTail ms, IsVisible c := by
  match ms with
  | [] => decide
  | (k, v) :: ms =>
    intro c hc
    simp only [membersTail, List.cons_append, List.append_assoc, List.mem_cons,
      List.mem_append] at hc
    rcases hc with rfl | rfl | hc | rfl | rfl | hc | hc
    · decide
    · decide
    · exact isVisible_stringChars k c hc
    · decide
    · decide
    · exact isVisible_chars v c hc
    · exact isVisible_membersTail ms c hc

end

/-- The text of a value is one line. -/
theorem isVisible_of_mem_text (j : Json) : ∀ c ∈ j.text.toList, IsVisible c := by
  rw [text, String.toList_ofList]
  exact isVisible_chars j

end Json

end Quadratic
