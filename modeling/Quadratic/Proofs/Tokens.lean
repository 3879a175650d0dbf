/-
Quadratic.Proofs.Tokens — cutting a text into lines does not change its
tokens.

A line ends with a character that is white space, so no token is cut in
two (`tokens_takeLine`). For a reader this means that the tokens it keeps,
followed by the tokens of the text it has not read, are all tokens still
to come: `Reader.remaining` is what a reader means, and taking a token
from the reader takes the first one of that list.

* `next?_eq_none_iff`, `exists_next?_of_remaining` — the reader against
  the list.
* `runsFrom_word_append` — a word with separators behind it is the first
  run; which characters separate is a parameter.
-/
import Quadratic.Console.Reader

namespace Quadratic

/-! ## 1. Tokens of lines -/

namespace Text

/-- What holds of all characters of a text is decided by going through the
text. A search through the characters of the whole character set, to which
the membership is just a condition, would not come to an end. -/
instance (priority := high) decidableAllChars {p : Char → Prop} [DecidablePred p]
    (cs : List Char) : Decidable (∀ c ∈ cs, p c) :=
  List.decidableBAll p cs

/-- A line end is where a token ends, if one was begun. -/
theorem runsFrom_takeLine {p : Char → Bool} (hp : p '\n' = true) (seen cs : List Char) :
    runsFrom p seen (takeLine cs).1 ++ runsFrom p [] (takeLine cs).2 = runsFrom p seen cs := by
  induction cs generalizing seen with
  | nil => simp [takeLine, runsFrom, finished]
  | cons c cs ih =>
    by_cases hc : c = '\n'
    · subst hc
      simp [takeLine, runsFrom, hp, finished]
    · by_cases hspace : p c = true
      · simp [takeLine, hc, runsFrom, hspace, ih]
      · simp [takeLine, hc, runsFrom, hspace, ih]

/-- The tokens of a text are those of its first line and those of the
rest. -/
theorem tokens_takeLine (cs : List Char) :
    tokens (takeLine cs).1 ++ tokens (takeLine cs).2 = tokens cs := by
  rw [tokens, tokens, ← List.map_append, runsFrom_takeLine (by decide), ← tokens]

theorem runsFrom_word {p : Char → Bool} {cs : List Char} (h : ∀ c ∈ cs, p c = false)
    (seen : List Char) : runsFrom p seen cs = finished (cs.reverse ++ seen) := by
  induction cs generalizing seen with
  | nil => rfl
  | cons c cs ih =>
    have hc : p c = false := h c (List.mem_cons_self ..)
    have hcs := ih fun d hd => h d (List.mem_cons_of_mem _ hd)
    simp [runsFrom, hc, hcs]

/-- A text without characters of the class is a single run. -/
theorem runsFrom_word_eq_singleton {p : Char → Bool} {cs : List Char} (hne : cs ≠ [])
    (h : ∀ c ∈ cs, p c = false) : runsFrom p [] cs = [cs] := by
  obtain ⟨c, r, hr⟩ := List.exists_cons_of_ne_nil (List.reverse_ne_nil_iff.mpr hne)
  have hcs : (c :: r).reverse = cs := by rw [← hr, List.reverse_reverse]
  rw [runsFrom_word h, List.append_nil, hr, finished, hcs]
  exact List.cons_ne_nil c r

/-- A text without white space is a single token. -/
theorem tokens_word {cs : List Char} (hne : cs ≠ []) (h : ∀ c ∈ cs, isSpace c = false) :
    tokens cs = [String.ofList cs] := by
  rw [tokens, runsFrom_word_eq_singleton hne h, List.map_singleton]

/-- A character of the class ends the run before it. -/
theorem runsFrom_append_cons {p : Char → Bool} {c : Char} (hc : p c = true)
    (seen cs ds : List Char) :
    runsFrom p seen (cs ++ c :: ds) = runsFrom p seen cs ++ runsFrom p [] ds := by
  induction cs generalizing seen with
  | nil => simp [runsFrom, hc]
  | cons d cs ih =>
    by_cases hd : p d = true
    · simp [runsFrom, hd, ih]
    · simp [runsFrom, hd, ih]

/-- Characters of the class in front of a text make no run. -/
theorem runsFrom_class_append {p : Char → Bool} {ws : List Char} (h : ∀ c ∈ ws, p c = true)
    (cs : List Char) : runsFrom p [] (ws ++ cs) = runsFrom p [] cs := by
  induction ws with
  | nil => rfl
  | cons w ws ih =>
    have hw : p w = true := h w (List.mem_cons_self ..)
    have hws := ih fun c hc => h c (List.mem_cons_of_mem _ hc)
    simp [runsFrom, hw, finished, hws]

/-- A word with characters of the class behind it is the first run. -/
theorem runsFrom_word_append {p : Char → Bool} {cs ws : List Char} (hne : cs ≠ [])
    (hcs : ∀ c ∈ cs, p c = false) (hws : ws ≠ []) (hclass : ∀ c ∈ ws, p c = true)
    (ds : List Char) : runsFrom p [] (cs ++ (ws ++ ds)) = cs :: runsFrom p [] ds := by
  obtain ⟨w, ws, rfl⟩ := List.exists_cons_of_ne_nil hws
  have hw : p w = true := hclass w (List.mem_cons_self ..)
  have hrest := runsFrom_class_append (fun c hc => hclass c (List.mem_cons_of_mem _ hc)) ds
  rw [List.cons_append, runsFrom_append_cons hw, runsFrom_word_eq_singleton hne hcs, hrest,
    List.singleton_append]

theorem runsFrom_word_class {p : Char → Bool} {cs ws : List Char} (hne : cs ≠ [])
    (hcs : ∀ c ∈ cs, p c = false) (hclass : ∀ c ∈ ws, p c = true) :
    runsFrom p [] (cs ++ ws) = [cs] := by
  cases ws with
  | nil => rw [List.append_nil, runsFrom_word_eq_singleton hne hcs]
  | cons w ws =>
    have hrun := runsFrom_word_append hne hcs (List.cons_ne_nil w ws) hclass []
    rwa [List.append_nil] at hrun

end Text

/-! ## 2. Tokens of readers -/

namespace Console.Reader

/-- The tokens still to come: those kept, then those of the unread text. -/
def remaining (r : Reader) : List String := r.pending ++ Text.tokens r.unread

@[simp] theorem remaining_start (input : List Char) :
    (start input).remaining = Text.tokens input := rfl

/-- The token fetched from a text is its first one, and no other token is
lost. -/
theorem tokens_of_fetch (unread : List Char) :
    Text.tokens unread =
      match fetch unread with
      | some (t, r) => t :: r.remaining
      | none => [] := by
  fun_induction fetch unread with
  | case1 => rfl
  | case2 unread _ t ts ht =>
    have hline := Text.tokens_takeLine unread
    rw [ht] at hline
    rw [← hline]
    rfl
  | case3 unread _ ht ih =>
    have hline := Text.tokens_takeLine unread
    rw [ht, List.nil_append] at hline
    rw [← hline, ih]

theorem remaining_eq_of_next? (r : Reader) :
    r.remaining =
      match r.next? with
      | some (t, r') => t :: r'.remaining
      | none => [] := by
  obtain ⟨pending, unread⟩ := r
  cases pending with
  | nil => exact tokens_of_fetch unread
  | cons t ts => rfl

/-- A reader has no next token exactly if none remains. -/
theorem next?_eq_none_iff (r : Reader) : r.next? = none ↔ r.remaining = [] := by
  rw [remaining_eq_of_next?]
  cases r.next? with
  | none => simp
  | some p => simp

/-- The next token is the first of those that remain. -/
theorem exists_next?_of_remaining {r : Reader} {t : String} {ts : List String}
    (h : r.remaining = t :: ts) : ∃ r', r.next? = some (t, r') ∧ r'.remaining = ts := by
  rw [remaining_eq_of_next?] at h
  cases hnext : r.next? with
  | none =>
    rw [hnext] at h
    cases h
  | some p =>
    obtain ⟨t', r'⟩ := p
    rw [hnext] at h
    cases h
    exact ⟨r', rfl, rfl⟩

end Console.Reader

end Quadratic
