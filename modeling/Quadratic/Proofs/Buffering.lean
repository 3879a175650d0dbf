/-
Quadratic.Proofs.Buffering — a reader against the row of its tokens.

A reader takes whole lines and keeps what it has not handed out. Asked
for one thing after another, it behaves as if it held all tokens of its
input in one row and took them off at the front: none is lost, none comes
twice, and none overtakes another.

* `Serves` — what a request does to a row of tokens. It does not know of
  lines. The rule for a restart is loose, since a row cannot say which of
  its tokens are kept.
* `Kept` — a property of readers that is kept by the three things that
  can happen to one: a token is handed out, the input ends, the reader is
  restarted. What is kept by these is kept by every request
  (`Kept.answer`, `Kept.after`).
* `FromLastLine` — the tokens kept are the last ones of the line that was
  taken last, so they are what a restart can lose.
* `answer_serves_remaining` — all of it, for any requests in any order.
-/
import Quadratic.Console.Request
import Quadratic.Proofs.Transcript

namespace Quadratic.Console

/-! ## 1. Requests to a row of tokens -/

/-- Asking a row of tokens for a number: the value, what is written, and
the tokens after it. -/
inductive Asks (prompt : String) : List String → Option Binary64 → String → List String → Prop
  | found (x : Attempt) (rest : List String) :
      Asks prompt (x.tokens ++ rest) (some x.value) (prompt ++ retries x.refused.length) rest
  | ended {us : List String} (h : ∀ t ∈ us, isAccepted t = false) :
      Asks prompt us none (prompt ++ retries us.length) []

/-- Asking for several numbers, up to the first prompt that finds none. -/
inductive AsksEach :
    List String → List String → Option (List Binary64) → String → List String → Prop
  | nil (ts : List String) : AsksEach [] ts (some []) "" ts
  | cons {prompt ts x w ts' prompts v w' ts''} (h : Asks prompt ts (some x) w ts')
      (h' : AsksEach prompts ts' v w' ts'') :
      AsksEach (prompt :: prompts) ts (v.map (x :: ·)) (w ++ w') ts''
  | ended {prompt ts w ts' prompts} (h : Asks prompt ts none w ts') :
      AsksEach (prompt :: prompts) ts none w ts'

/-- What a request does to a row of tokens: the reply, what is written,
and the tokens that are left. -/
inductive Serves : Request → List String → Option Reply → String → List String → Prop
  | coefficient {prompt ts v w ts'} (h : Asks prompt ts v w ts') :
      Serves (.coefficient prompt) ts (v.map .coefficient) w ts'
  | coefficients {ts a b c w ts'}
      (h : AsksEach (coefficientNames.map prompt) ts (some [a, b, c]) w ts') :
      Serves .coefficients ts (some (.coefficients ⟨a, b, c⟩)) (header ++ "\n" ++ w) ts'
  | noCoefficients {ts w ts'} (h : AsksEach (coefficientNames.map prompt) ts none w ts') :
      Serves .coefficients ts none (header ++ "\n" ++ w) ts'
  | token (t : String) (ts : List String) : Serves .token (t :: ts) (some (.token t)) "" ts
  | noToken : Serves .token [] none "" []
  | restart (dropped ts : List String) : Serves .restart (dropped ++ ts) (some .restarted) "" ts

/-! ## 2. Requests to a reader -/

/-- A row of tokens begins with an attempt, or all of it is refused. -/
theorem attempt_or_refused (ts : List String) :
    (∃ (x : Attempt) (rest : List String), ts = x.tokens ++ rest) ∨
      ∀ t ∈ ts, isAccepted t = false := by
  obtain ⟨attempts, leftover, hleft, htokens⟩ := Sorting.of ts
  cases attempts with
  | nil =>
    rw [List.flatMap_nil, List.nil_append] at htokens
    exact .inr (htokens ▸ hleft)
  | cons x xs =>
    rw [List.flatMap_cons, List.append_assoc] at htokens
    exact .inl ⟨x, _, htokens.symm⟩

namespace Reader

theorem readCoefficient_asks (prompt : String) (r : Reader) :
    Asks prompt r.remaining (r.readCoefficient prompt).value (r.readCoefficient prompt).written
      (r.readCoefficient prompt).rest.remaining := by
  rcases attempt_or_refused r.remaining with ⟨x, rest, hx⟩ | hrefused
  · obtain ⟨r', hr', hread⟩ := readNumber_of_attempt x hx
    rw [readCoefficient, hread, hx]
    simp only [Reading.afterText, hr']
    exact .found x rest
  · rw [readCoefficient, readNumber_of_leftover hrefused]
    exact .ended hrefused

theorem readAll_serves (r : Reader) :
    Serves .coefficients r.remaining (r.readAll.value.map .coefficients) r.readAll.written
      r.readAll.rest.remaining := by
  have ha := readCoefficient_asks (prompt "a") r
  unfold readAll
  -- The cases are the prompts at which the input may end.
  generalize r.readCoefficient (prompt "a") = ra at ha ⊢
  obtain ⟨_ | a, wa, ea, r₁⟩ := ra
  · exact .noCoefficients (.ended ha)
  have hb := readCoefficient_asks (prompt "b") r₁
  simp only [Reading.andThen]
  generalize r₁.readCoefficient (prompt "b") = rb at hb ⊢
  obtain ⟨_ | b, wb, eb, r₂⟩ := rb
  · exact .noCoefficients (.cons ha (.ended hb))
  have hc := readCoefficient_asks (prompt "c") r₂
  simp only
  generalize r₂.readCoefficient (prompt "c") = rc at hc ⊢
  obtain ⟨_ | c, wc, ec, r₃⟩ := rc
  · exact .noCoefficients (.cons ha (.cons hb (.ended hc)))
  exact .coefficients (.cons ha (.cons hb (.cons hc (.nil _))))

theorem readToken_serves (r : Reader) :
    Serves .token r.remaining (r.readToken.value.map .token) r.readToken.written
      r.readToken.rest.remaining := by
  have hremaining := remaining_eq_of_next? r
  unfold readToken
  cases hnext : r.next? with
  | none =>
    rw [hnext] at hremaining
    rw [hremaining]
    exact .noToken
  | some p =>
    rw [hnext] at hremaining
    rw [hremaining]
    exact .token p.1 p.2.remaining

/-- A request to a reader does what it does to the row of its tokens. -/
theorem answer_serves (r : Reader) (q : Request) :
    Serves q r.remaining (r.answer q).value (r.answer q).written (r.answer q).rest.remaining := by
  cases q with
  | coefficient prompt => exact .coefficient (readCoefficient_asks prompt r)
  | coefficients => exact readAll_serves r
  | token => exact readToken_serves r
  | restart => exact .restart r.pending (Text.tokens r.unread)

/-! ## 3. What is kept -/

/-- Kept by whatever happens to a reader. -/
structure Kept (P : Reader → Prop) : Prop where
  next : ∀ {r t r'}, P r → r.next? = some (t, r') → P r'
  ended : ∀ {r}, P r → r.next? = none → P exhausted
  restart : ∀ {r}, P r → P (start r.unread)

section

variable {P : Reader → Prop} (hP : Kept P)

include hP

theorem Kept.readNumber {r : Reader} (hr : P r) : P r.readNumber.rest := by
  fun_induction Reader.readNumber r with
  | case1 r hnext => exact hP.ended hr hnext
  | case2 r t r' hnext x hx => exact hP.next hr hnext
  | case3 r t r' hnext e he ih => exact ih (hP.next hr hnext)

theorem Kept.readToken {r : Reader} (hr : P r) : P r.readToken.rest := by
  unfold Reader.readToken
  cases hnext : r.next? with
  | none => exact hP.ended hr hnext
  | some p => exact hP.next hr hnext

omit hP in
theorem rest_andThen {α β : Type} {r : Reading α} {f : α → Reader → Reading β} (hr : P r.rest)
    (hf : ∀ x s, P s → P (f x s).rest) : P (r.andThen f).rest := by
  unfold Reading.andThen
  cases r.value with
  | none => exact hr
  | some x => exact hf x r.rest hr

theorem Kept.readAll {r : Reader} (hr : P r) : P r.readAll.rest := by
  refine rest_andThen (hP.readNumber hr) fun _ r₁ h₁ => ?_
  refine rest_andThen (hP.readNumber h₁) fun _ r₂ h₂ => ?_
  refine rest_andThen (hP.readNumber h₂) fun _ r₃ h₃ => ?_
  exact h₃

theorem Kept.answer {r : Reader} (hr : P r) (q : Request) : P (r.answer q).rest := by
  cases q with
  | coefficient prompt => exact hP.readNumber hr
  | coefficients => exact hP.readAll hr
  | token => exact hP.readToken hr
  | restart => exact hP.restart hr

theorem Kept.after {r : Reader} (hr : P r) (qs : List Request) : P (r.after qs) := by
  induction qs generalizing r with
  | nil => exact hr
  | cons q qs ih => exact ih (hP.answer hr q)

end

/-! ## 4. The end of the input -/

theorem next?_exhausted : exhausted.next? = none := by
  rw [next?_eq_none_iff]
  rfl

theorem kept_exhausted : Kept (· = exhausted) where
  next := by
    rintro r t r' rfl hnext
    rw [next?_exhausted] at hnext
    cases hnext
  ended := fun _ _ => rfl
  restart := by
    rintro r rfl
    rfl

/-- A reader that has come to the end replies to nothing but a restart. -/
theorem value_answer_exhausted {q : Request} (hq : q ≠ .restart) :
    (exhausted.answer q).value = none := by
  have hread := readNumber_of_end next?_exhausted
  cases q with
  | coefficient prompt => simp [answer, readCoefficient, hread, Reading.map, Reading.afterText]
  | coefficients =>
    simp [answer, readAll, readCoefficient, hread, Reading.map, Reading.afterText,
      Reading.andThen]
  | token => simp [answer, readToken, next?_exhausted, Reading.map]
  | restart => exact absurd rfl hq

/-- Without a value the reader is left with nothing. -/
def ExhaustedWithoutValue {α : Type} (r : Reading α) : Prop := r.value = none → r.rest = exhausted

theorem readNumber_exhausted (r : Reader) : ExhaustedWithoutValue r.readNumber := by
  fun_induction Reader.readNumber r with
  | case1 r hnext => exact fun _ => rfl
  | case2 r t r' hnext x hx =>
    intro h
    cases h
  | case3 r t r' hnext e he ih => exact ih

theorem readToken_exhausted (r : Reader) : ExhaustedWithoutValue r.readToken := by
  intro h
  unfold Reader.readToken at h ⊢
  cases hnext : r.next? with
  | none => rfl
  | some p =>
    rw [hnext] at h
    cases h

theorem andThen_exhausted {α β : Type} {r : Reading α} {f : α → Reader → Reading β}
    (hr : ExhaustedWithoutValue r) (hf : ∀ x s, ExhaustedWithoutValue (f x s)) :
    ExhaustedWithoutValue (r.andThen f) := by
  unfold Reading.andThen
  cases hvalue : r.value with
  | none => exact fun _ => hr hvalue
  | some x => exact hf x r.rest

theorem readAll_exhausted (r : Reader) : ExhaustedWithoutValue r.readAll := by
  refine andThen_exhausted (readNumber_exhausted r) fun a r₁ => ?_
  refine andThen_exhausted (readNumber_exhausted r₁) fun b r₂ => ?_
  refine andThen_exhausted (readNumber_exhausted r₂) fun c r₃ h => ?_
  cases h

/-- A request without a reply leaves nothing behind. -/
theorem answer_exhausted (r : Reader) (q : Request) : ExhaustedWithoutValue (r.answer q) := by
  intro h
  cases q with
  | coefficient prompt => exact readNumber_exhausted r (Option.map_eq_none_iff.mp h)
  | coefficients => exact readAll_exhausted r (Option.map_eq_none_iff.mp h)
  | token => exact readToken_exhausted r (Option.map_eq_none_iff.mp h)
  | restart => cases h

/-! ## 5. The last line -/

/-- Lines were taken off the input, one after the other: the last of them,
and the text after it. Before the first one there is no last line. -/
inductive LinesTaken (input : List Char) : List Char → List Char → Prop
  | none : LinesTaken input [] input
  | next {line rest} (h : LinesTaken input line rest) (hne : rest ≠ []) :
      LinesTaken input (Text.takeLine rest).1 (Text.takeLine rest).2

/-- The tokens kept are the last ones of the line that was taken last. -/
def FromLastLine (input : List Char) (r : Reader) : Prop :=
  ∃ line, LinesTaken input line r.unread ∧ r.pending <:+ Text.tokens line

theorem fromLastLine_of_fetch {input line unread : List Char} {t : String} {r : Reader}
    (h : LinesTaken input line unread) (hfetch : fetch unread = some (t, r)) :
    FromLastLine input r := by
  fun_induction fetch unread generalizing line with
  | case1 => cases hfetch
  | case2 unread hne t' ts ht =>
    cases hfetch
    exact ⟨_, h.next hne, ht ▸ List.suffix_cons t ts⟩
  | case3 unread hne ht ih => exact ih (h.next hne) hfetch

theorem linesTaken_of_fetch_none {input line unread : List Char}
    (h : LinesTaken input line unread) (hfetch : fetch unread = none) :
    ∃ line, LinesTaken input line [] := by
  fun_induction fetch unread generalizing line with
  | case1 => exact ⟨line, h⟩
  | case2 unread hne t' ts ht => cases hfetch
  | case3 unread hne ht ih => exact ih (h.next hne) hfetch

theorem kept_fromLastLine (input : List Char) : Kept (FromLastLine input) where
  next := by
    rintro ⟨_ | ⟨t', ts⟩, unread⟩ t r' ⟨line, hlines, hsuffix⟩ hnext
    · exact fromLastLine_of_fetch hlines hnext
    · cases hnext
      exact ⟨line, hlines, (List.suffix_cons _ _).trans hsuffix⟩
  ended := by
    rintro ⟨_ | ⟨t', ts⟩, unread⟩ ⟨line, hlines, hsuffix⟩ hnext
    · obtain ⟨line', hlines'⟩ := linesTaken_of_fetch_none hlines hnext
      exact ⟨line', hlines', List.nil_suffix⟩
    · cases hnext
  restart := by
    rintro r ⟨line, hlines, -⟩
    exact ⟨line, hlines, List.nil_suffix⟩

theorem fromLastLine_start (input : List Char) : FromLastLine input (start input) :=
  ⟨[], .none, List.nil_suffix⟩

/-! ## 6. Requests in any order -/

/-- A reader asked for one thing after another. At the start the row of
its tokens is that of the whole input. Each request does to the reader
what it does to that row, and a restart takes away exactly the tokens
that were kept, which all come from the line taken last. A request that
has no reply leaves nothing of the tokens and nothing of the input, so
that none of the later ones has a reply, restarts apart. -/
theorem answer_serves_remaining (input : List Char) (before : List Request) (q : Request) :
    let r := (start input).after before
    let reading := r.answer q
    (start input).remaining = Text.tokens input ∧
    Serves q r.remaining reading.value reading.written reading.rest.remaining ∧
    FromLastLine input r ∧
    (q = .restart →
      r.remaining = r.pending ++ reading.rest.remaining ∧ reading.rest = ⟨[], r.unread⟩) ∧
    (reading.value = none →
      reading.rest = ⟨[], []⟩ ∧
      ∀ later q', q' ≠ .restart → ((reading.rest.after later).answer q').value = none) := by
  intro r reading
  refine ⟨rfl, answer_serves r q, (kept_fromLastLine input).after (fromLastLine_start input) before,
    ?_, ?_⟩
  · rintro rfl
    exact ⟨rfl, rfl⟩
  · intro hended
    have hrest : reading.rest = exhausted := answer_exhausted r q hended
    refine ⟨hrest, ?_⟩
    intro later q' hq'
    have hlater : reading.rest.after later = exhausted := kept_exhausted.after hrest later
    rw [hlater]
    exact value_answer_exhausted hq'

/-- The first line of an input with two, of which one token was taken. -/
def halfTaken : Reader := (start "1 2\n3".toList).after [.token]

/-- A search for a number that ends without one. -/
def vainSearch : Reading Reply := (start "x y".toList).answer (.coefficient "a: ")

/-- A restart loses the other token of the line. After the search there is
no token either, and nothing for a new reader. -/
theorem answer_of_halfTaken_and_vainSearch :
    (halfTaken.pending = ["2"] ∧ FromLastLine "1 2\n3".toList halfTaken ∧
      halfTaken.remaining = ["2"] ++ (halfTaken.answer .restart).rest.remaining) ∧
    vainSearch.value = none ∧
      ((vainSearch.rest.after [.restart, .coefficients]).answer .token).value = none := by
  obtain ⟨-, -, hline, hrestart, -⟩ := answer_serves_remaining "1 2\n3".toList [.token] .restart
  obtain ⟨-, -, -, -, hend⟩ := answer_serves_remaining "x y".toList [] (.coefficient "a: ")
  have hpending : halfTaken.pending = ["2"] := by decide +kernel
  have hended : vainSearch.value = none := by decide +kernel
  refine ⟨⟨hpending, hline, ?_⟩, hended, ?_⟩
  · rw [← hpending]
    exact (hrestart rfl).1
  · exact (hend hended).2 [.restart, .coefficients] .token (by decide)

end Reader

end Quadratic.Console
