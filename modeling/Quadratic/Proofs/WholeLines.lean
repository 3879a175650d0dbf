/-
Quadratic.Proofs.WholeLines — a reader takes no line before it has to.

A line that is taken too early cannot be told from the transcript. It shows
in what is left on the input: what was taken off it must be the shortest row
of whole lines that holds the tokens which are gone, because they were
handed out, or refused, or lost to a restart. Only `\n` ends a line, and
other characters that separate tokens do not.

Two facts carry the invariant. Whole lines do not end within the line that
is taken next (`WholeLines.le_or_takeLine_le`), and what comes after whole
lines does not change their tokens (`tokens_append`), so that the tokens
grow with the lines.

* `IsShortest` — the shortest whole lines with a property.
* `Counts` — a property of readers that also says how many tokens are gone.
  What a single token and a restart keep is kept by requests with a reply.
* `consumed_fetch` — the lines taken for one token.
* `lines_taken_when_needed` — requests in any order, and runs.
-/
import Mathlib.Data.List.Basic
import Quadratic.Proofs.Buffering

namespace Quadratic

/-! ## 1. Whole lines -/

namespace Text

/-- Nothing, or a text that ends where a line does. -/
def EndsLine (part : List Char) : Prop := part = [] ∨ part.getLast? = some '\n'

/-- A start of a text that is made of whole lines. The last line of the text
may lack its end. -/
def WholeLines (text part : List Char) : Prop := part <+: text ∧ (EndsLine part ∨ part = text)

/-- The shortest whole lines at the start of a text that have a property. -/
structure IsShortest (text : List Char) (P : List Char → Prop) (part : List Char) : Prop where
  whole : WholeLines text part
  holds : P part
  least : ∀ other, WholeLines text other → P other → part.length ≤ other.length

/-- The shortest with a property is the shortest with a stronger one, if it
has that. -/
theorem IsShortest.strengthen {text part : List Char} {P Q : List Char → Prop}
    (h : IsShortest text P part) (hpart : Q part)
    (himp : ∀ other, WholeLines text other → Q other → P other) : IsShortest text Q part where
  whole := h.whole
  holds := hpart
  least := fun other hother hQ => h.least other hother (himp other hother hQ)

theorem wholeLines_nil (text : List Char) : WholeLines text [] :=
  ⟨List.nil_prefix, .inl (.inl rfl)⟩

/-- A text that ends a line ends a token too. -/
theorem tokens_append {p : List Char} (hp : EndsLine p) (q : List Char) :
    tokens (p ++ q) = tokens p ++ tokens q := by
  rcases hp with rfl | hlast
  · rfl
  · obtain ⟨init, rfl⟩ := List.getLast?_eq_some_iff.mp hlast
    have hsplit : ∀ ds, runsFrom isSpace [] (init ++ '\n' :: ds) =
        runsFrom isSpace [] init ++ runsFrom isSpace [] ds :=
      runsFrom_append_cons (by decide) [] init
    have hends : runsFrom isSpace [] (init ++ ['\n']) = runsFrom isSpace [] init := by
      rw [hsplit, runsFrom, finished, List.append_nil]
    rw [tokens, tokens, tokens, List.append_assoc, List.singleton_append, hsplit, hends,
      List.map_append]

/-- The tokens of whole lines come first among those of a longer text. -/
theorem WholeLines.tokens_prefix {text part other : List Char} (h : WholeLines text part)
    (hother : other <+: text) (hlength : part.length ≤ other.length) :
    tokens part <+: tokens other := by
  obtain ⟨hpart, hends⟩ := h
  rcases hends with hends | rfl
  · obtain ⟨rest, rfl⟩ := List.prefix_of_prefix_length_le hpart hother hlength
    rw [tokens_append hends]
    exact List.prefix_append ..
  · obtain rfl := hother.eq_of_length_le hlength
    exact List.prefix_rfl

theorem WholeLines.tokens_prefix_text {text part : List Char} (h : WholeLines text part) :
    tokens part <+: tokens text :=
  h.tokens_prefix (List.prefix_refl text) h.1.length_le

/-- A line ends where the text does, or with the character for it. -/
theorem endsLine_takeLine {cs : List Char} (hrest : (takeLine cs).2 ≠ []) :
    (takeLine cs).1.getLast? = some '\n' := by
  induction cs with
  | nil => exact absurd rfl hrest
  | cons c cs ih =>
    by_cases hc : c = '\n'
    · simp [takeLine, hc]
    · simp only [takeLine, hc, if_false] at hrest ⊢
      rw [List.getLast?_cons, ih hrest]
      rfl

/-- What ends a line does not end before the first line does. -/
theorem length_takeLine_le {cs p : List Char} (hp : p <+: cs) (hlast : p.getLast? = some '\n') :
    (takeLine cs).1.length ≤ p.length := by
  induction cs generalizing p with
  | nil => exact Nat.zero_le _
  | cons c cs ih =>
    cases p with
    | nil => cases hlast
    | cons d p =>
      obtain ⟨rfl, hp'⟩ := List.cons_prefix_cons.mp hp
      by_cases hd : d = '\n'
      · simp [takeLine, hd]
      · cases p with
        | nil => exact absurd (Option.some.inj hlast) hd
        | cons e p =>
          rw [List.getLast?_cons_cons] at hlast
          simpa [takeLine, hd] using ih hp' hlast

theorem WholeLines.takeLine {consumed unread : List Char} (hunread : unread ≠ [])
    (h : WholeLines (consumed ++ unread) consumed) :
    EndsLine consumed ∧
      WholeLines (consumed ++ unread) (consumed ++ (Text.takeLine unread).1) := by
  have happend := takeLine_append unread
  have hne : consumed ≠ consumed ++ unread := by
    intro heq
    exact hunread (List.append_right_eq_self.mp heq.symm)
  refine ⟨h.2.resolve_right hne, ⟨(Text.takeLine unread).2, ?_⟩, ?_⟩
  · rw [List.append_assoc, happend]
  · by_cases hrest : (Text.takeLine unread).2 = []
    · rw [hrest, List.append_nil] at happend
      exact .inr (by rw [happend])
    · have hlast := endsLine_takeLine hrest
      left
      right
      rw [List.getLast?_append, hlast]
      rfl

/-- Whole lines do not end within a line. -/
theorem WholeLines.le_or_takeLine_le {consumed unread other : List Char}
    (hother : WholeLines (consumed ++ unread) other) :
    other.length ≤ consumed.length ∨
      (consumed ++ (Text.takeLine unread).1).length ≤ other.length := by
  obtain ⟨hbegins, hends⟩ := hother
  rcases Nat.lt_or_ge consumed.length other.length with hlt | hge
  · right
    obtain ⟨p, rfl⟩ := List.prefix_of_prefix_length_le (List.prefix_append consumed unread) hbegins
      (Nat.le_of_lt hlt)
    rw [List.length_append, List.length_append]
    refine Nat.add_le_add_left ?_ _
    have hp : p <+: unread := (List.prefix_append_right_inj consumed).mp hbegins
    rcases hends with (hnil | hlast) | hall
    · rw [hnil] at hlt
      cases hlt
    · have hne : p ≠ [] := by
        rintro rfl
        simp at hlt
      rw [List.getLast?_append_of_ne_nil _ hne] at hlast
      exact length_takeLine_le hp hlast
    · rw [List.append_cancel_left hall]
      have hline := congrArg List.length (takeLine_append unread)
      rw [List.length_append] at hline
      omega
  · exact .inl hge

end Text

/-! ## 2. Counting tokens -/

namespace Console

/-- The number of tokens in a reply to a request. -/
def Request.replySize : Request → Nat
  | .coefficient _ => 1
  | .coefficients => 3
  | .token => 1
  | .restart => 0

namespace Reader

/-- The number of tokens that a request throws away unseen. -/
def lost (r : Reader) : Request → Nat
  | .restart => r.pending.length
  | _ => 0

/-- The number of tokens that are gone after a request with a reply: those
refused, those handed out, and those lost. -/
def taken (r : Reader) (q : Request) : Nat :=
  (r.answer q).rejected.length + q.replySize + r.lost q

/-- The tokens that requests take, one after the other. -/
def takenBy : Reader → List Request → Nat
  | _, [] => 0
  | r, q :: qs => r.taken q + (r.answer q).rest.takenBy qs

/-- Whether each request has a reply, so that the end of the input was not
met. -/
def repliesTo : Reader → List Request → Bool
  | _, [] => true
  | r, q :: qs => (r.answer q).value.isSome && (r.answer q).rest.repliesTo qs

/-- A property of readers and of the number of tokens that are gone, kept
when one more is handed out and when the tokens kept are lost. -/
structure Counts (P : Nat → Reader → Prop) : Prop where
  next : ∀ {n r t r'}, P n r → r.next? = some (t, r') → P (n + 1) r'
  restart : ∀ {n r}, P n r → P (n + r.pending.length) (start r.unread)

/-- A reading with a value, made of `k` tokens, is counted on from `n`. -/
def CountedOn {α : Type} (P : Nat → Reader → Prop) (n k : Nat) (r : Reading α) : Prop :=
  r.value.isSome = true → P (n + (r.rejected.length + k)) r.rest

section

variable {P : Nat → Reader → Prop} (hP : Counts P)

include hP

theorem Counts.readNumber {n : Nat} {r : Reader} (hr : P n r) : CountedOn P n 1 r.readNumber := by
  fun_induction Reader.readNumber r generalizing n with
  | case1 r hnext =>
    intro h
    cases h
  | case2 r t r' hnext x hx => exact fun _ => hP.next hr hnext
  | case3 r t r' hnext e he ih =>
    intro h
    have hcount := ih (hP.next hr hnext) h
    rw [Nat.add_assoc, Nat.add_comm 1, Nat.add_right_comm] at hcount
    exact hcount

theorem Counts.readToken {n : Nat} {r : Reader} (hr : P n r) : CountedOn P n 1 r.readToken := by
  intro h
  unfold Reader.readToken at h ⊢
  cases hnext : r.next? with
  | none =>
    rw [hnext] at h
    cases h
  | some p => exact hP.next hr hnext

omit hP in
theorem countedOn_andThen {α β : Type} {n k j : Nat} {r : Reading α} {f : α → Reader → Reading β}
    (hr : CountedOn P n k r) (hf : ∀ x m s, P m s → CountedOn P m j (f x s)) :
    CountedOn P n (k + j) (r.andThen f) := by
  intro h
  unfold Reading.andThen at h ⊢
  cases hvalue : r.value with
  | none =>
    rw [hvalue] at h
    cases h
  | some x =>
    rw [hvalue] at h
    have hrest := hf x _ r.rest (hr (by rw [hvalue]; rfl)) h
    have hsum : n + ((r.rejected ++ (f x r.rest).rejected).length + (k + j)) =
        n + (r.rejected.length + k) + ((f x r.rest).rejected.length + j) := by
      rw [List.length_append]
      omega
    exact hsum ▸ hrest

theorem Counts.readAll {n : Nat} {r : Reader} (hr : P n r) : CountedOn P n 3 r.readAll := by
  refine countedOn_andThen (j := 2) (hP.readNumber hr) fun _ m₁ r₁ h₁ => ?_
  refine countedOn_andThen (j := 1) (hP.readNumber h₁) fun _ m₂ r₂ h₂ => ?_
  refine countedOn_andThen (j := 0) (hP.readNumber h₂) fun _ m₃ r₃ h₃ => ?_
  exact fun _ => h₃

theorem Counts.answer {n : Nat} {r : Reader} (hr : P n r) {q : Request}
    (hreply : (r.answer q).value.isSome = true) : P (n + r.taken q) (r.answer q).rest := by
  cases q with
  | coefficient prompt => exact hP.readNumber hr (Option.isSome_map.symm.trans hreply)
  | coefficients => exact hP.readAll hr (Option.isSome_map.symm.trans hreply)
  | token => exact hP.readToken hr (Option.isSome_map.symm.trans hreply)
  | restart =>
    have hlost := hP.restart hr
    rw [← Nat.zero_add r.pending.length] at hlost
    exact hlost

theorem Counts.after {n : Nat} {r : Reader} (hr : P n r) {qs : List Request}
    (hreplies : r.repliesTo qs = true) : P (n + r.takenBy qs) (r.after qs) := by
  induction qs generalizing n r with
  | nil => exact hr
  | cons q qs ih =>
    obtain ⟨hreply, hreplies⟩ := Bool.and_eq_true_iff.mp hreplies
    have hafter := ih (hP.answer hr hreply) hreplies
    rw [Nat.add_assoc] at hafter
    exact hafter

end

/-! ## 3. The lines taken -/

/-- So many tokens are gone, and the lines taken off the input are the ones
that this needs. The tokens that are not gone are kept. -/
def Consumed (input : List Char) (n : Nat) (r : Reader) : Prop :=
  ∃ consumed, consumed ++ r.unread = input ∧
    Text.IsShortest input (fun part => n ≤ (Text.tokens part).length) consumed ∧
    (Text.tokens consumed).length = n + r.pending.length

theorem consumed_start (input : List Char) : Consumed input 0 (start input) :=
  ⟨[], rfl, ⟨Text.wholeLines_nil input, Nat.zero_le _, fun _ _ _ => Nat.zero_le _⟩, rfl⟩

/-- If all tokens of the lines taken are gone, the lines up to the next token
are needed for it. -/
theorem consumed_fetch {consumed unread : List Char}
    (hwhole : Text.WholeLines (consumed ++ unread) consumed) {t : String} {r : Reader}
    (hfetch : fetch unread = some (t, r)) :
    Consumed (consumed ++ unread) ((Text.tokens consumed).length + 1) r := by
  fun_induction fetch unread generalizing consumed with
  | case1 => cases hfetch
  | case2 unread hne t' ts ht =>
    cases hfetch
    obtain ⟨hends, hwhole'⟩ := hwhole.takeLine hne
    have htokens := congrArg List.length (Text.tokens_append hends (Text.takeLine unread).1)
    rw [ht, List.length_append, List.length_cons] at htokens
    refine ⟨consumed ++ (Text.takeLine unread).1, ?_, ⟨hwhole', ?_, ?_⟩, ?_⟩
    · rw [List.append_assoc, Text.takeLine_append]
    · omega
    · intro other hother hmore
      rcases hother.le_or_takeLine_le with hle | hge
      · have hfewer := (hother.tokens_prefix hwhole.1 hle).length_le
        omega
      · exact hge
    · dsimp only
      omega
  | case3 unread hne ht ih =>
    -- A line without a token is taken, and the search goes on.
    obtain ⟨hends, hwhole'⟩ := hwhole.takeLine hne
    have happend : consumed ++ (Text.takeLine unread).1 ++ (Text.takeLine unread).2 =
        consumed ++ unread := by
      rw [List.append_assoc, Text.takeLine_append]
    have htokens := Text.tokens_append hends (Text.takeLine unread).1
    rw [ht, List.append_nil] at htokens
    rw [← happend] at hwhole'
    have hrest := ih hwhole' hfetch
    rwa [happend, htokens] at hrest

theorem counts_consumed (input : List Char) : Counts (Consumed input) where
  next := by
    rintro n ⟨_ | ⟨t', ts⟩, unread⟩ t r' ⟨consumed, rfl, hshortest, hcount⟩ hnext
    · rw [List.length_nil, Nat.add_zero] at hcount
      exact hcount ▸ consumed_fetch hshortest.whole hnext
    · cases hnext
      rw [List.length_cons] at hcount
      refine ⟨consumed, rfl, hshortest.strengthen ?_ ?_, ?_⟩
      · omega
      · exact fun other _ => Nat.le_of_succ_le
      · dsimp only
        omega
  restart := by
    rintro n r ⟨consumed, happend, hshortest, hcount⟩
    refine ⟨consumed, happend, hshortest.strengthen (Nat.le_of_eq hcount.symm) ?_, hcount⟩
    exact fun other _ => Nat.le_of_add_right_le

end Reader

/-! ## 4. Runs -/

open Reader

theorem consumed_run {input : List Char} (h : (run input).value.isSome = true) :
    Consumed input ((run input).rejected.length + 3) (run input).rest := by
  have hrun : CountedOn (Consumed input) 0 3 (run input) := by
    have hall := (counts_consumed input).readAll (consumed_start input)
    refine countedOn_andThen (j := 0) hall fun _ _ _ hs _ => ?_
    exact hs
  have hconsumed := hrun h
  rwa [Nat.zero_add] at hconsumed

theorem run_exhausted (input : List Char) : ExhaustedWithoutValue (run input) := by
  refine andThen_exhausted (readAll_exhausted (start input)) fun q r h => ?_
  cases h

theorem countP_of_refused {us : List String} (h : ∀ t ∈ us, isAccepted t = false) :
    us.countP isAccepted = 0 := by
  rw [List.countP_eq_length_filter, Sorting.filter_of_refused h, List.length_nil]

theorem Attempt.countP_tokens (x : Attempt) : x.tokens.countP isAccepted = 1 := by
  rw [Attempt.tokens, List.countP_append, countP_of_refused x.not_accepted, List.countP_singleton,
    if_pos x.isAccepted_token]

/-- Of the rows at the start of another, those that hold a given accepted
token of it are the long ones, and also those with many accepted tokens. -/
theorem countP_isAccepted_le_iff {all ts us : List String} {z : String} (hts : ts <+: all)
    (hus : us ++ [z] <+: all) (hz : isAccepted z = true) :
    us.countP isAccepted + 1 ≤ ts.countP isAccepted ↔ us.length + 1 ≤ ts.length := by
  have hcount : (us ++ [z]).countP isAccepted = us.countP isAccepted + 1 := by
    rw [List.countP_append, List.countP_singleton, if_pos hz]
  have hlength : (us ++ [z]).length = us.length + 1 := List.length_append
  constructor
  · intro hmany
    by_contra hshort
    have hbegins : ts <+: us := List.prefix_of_prefix_length_le hts
      ((List.prefix_append us [z]).trans hus) (by omega)
    have hle := hbegins.sublist.countP_le (p := isAccepted)
    omega
  · intro hlong
    have hbegins : us ++ [z] <+: ts := List.prefix_of_prefix_length_le hus hts (by omega)
    have hle := hbegins.sublist.countP_le (p := isAccepted)
    omega

/-- Of the rows at the start of all tokens, those that hold the third accepted
one are those that hold the tokens of a run with a value. -/
theorem three_accepted_iff {input : List Char} (h : (run input).value.isSome = true)
    {ts : List String} (hts : ts <+: Text.tokens input) :
    3 ≤ ts.countP isAccepted ↔ (run input).rejected.length + 3 ≤ ts.length := by
  let s := Sorting.of (Text.tokens input)
  rcases s.three_or_fewer with ⟨x, y, z, rest, hattempts⟩ | hfew
  · obtain ⟨r, hr⟩ := reading_of_three s hattempts
    have hrefused : ∀ t ∈ x.refused ++ y.refused ++ z.refused, isAccepted t = false := by
      simp only [List.mem_append, or_imp, forall_and]
      exact ⟨⟨x.not_accepted, y.not_accepted⟩, z.not_accepted⟩
    have hrejected := (forall₂_refusals hrefused).length_eq
    have hus : x.tokens ++ y.tokens ++ z.refused ++ [z.token] <+: Text.tokens input := by
      have htokens := s.tokens_eq
      rw [hattempts] at htokens
      refine ⟨rest.flatMap Attempt.tokens ++ s.leftover, ?_⟩
      simpa [Attempt.tokens] using htokens
    have hcount : (x.tokens ++ y.tokens ++ z.refused).countP isAccepted = 2 := by
      rw [List.countP_append, List.countP_append, x.countP_tokens, y.countP_tokens,
        countP_of_refused z.not_accepted]
    have hlength : (x.tokens ++ y.tokens ++ z.refused).length + 1 =
        (run input).rejected.length + 3 := by
      rw [hr]
      simp only [Attempt.tokens, List.length_append, List.length_singleton] at hrejected ⊢
      omega
    have hiff := countP_isAccepted_le_iff hts hus z.isAccepted_token
    rwa [hcount, hlength] at hiff
  · rw [(run_of_fewer s hfew).1] at h
    cases h

/-- Lines are taken when they are needed, and not before. After any requests
that all have a reply, the text taken off the input is the shortest row of
whole lines that holds as many tokens as are gone, and no text as long as
none is gone. After a run with a value it is the shortest that holds the
tokens refused and handed out, which is the shortest that holds three
accepted tokens. A request without a reply and a run without a value leave
nothing unread. -/
theorem lines_taken_when_needed (input : List Char) :
    (∀ qs, (start input).repliesTo qs = true →
      ∃ consumed, consumed ++ ((start input).after qs).unread = input ∧
        Text.IsShortest input
          (fun part => (start input).takenBy qs ≤ (Text.tokens part).length) consumed ∧
        ((start input).takenBy qs = 0 → consumed = [])) ∧
    (∀ before q, let reading := ((start input).after before).answer q
      reading.value = none → reading.rest.unread = []) ∧
    ((run input).value.isSome = true →
      ∃ consumed, consumed ++ (run input).rest.unread = input ∧
        Text.IsShortest input
          (fun part => (run input).rejected.length + 3 ≤ (Text.tokens part).length) consumed ∧
        Text.IsShortest input (fun part => 3 ≤ (Text.tokens part).countP isAccepted) consumed) ∧
    ((run input).value = none → (run input).rest.unread = []) := by
  refine ⟨?_, ?_, ?_, ?_⟩
  · intro qs hreplies
    have hafter := (counts_consumed input).after (consumed_start input) hreplies
    rw [Nat.zero_add] at hafter
    obtain ⟨consumed, happend, hshortest, -⟩ := hafter
    refine ⟨consumed, happend, hshortest, fun hzero => ?_⟩
    have hle := hshortest.least [] (Text.wholeLines_nil input) (hzero ▸ Nat.zero_le _)
    exact List.length_eq_zero_iff.mp (Nat.le_zero.mp hle)
  · intro before q reading hended
    rw [answer_exhausted _ q hended]
    rfl
  · intro hvalue
    obtain ⟨consumed, happend, hshortest, -⟩ := consumed_run hvalue
    have hiff : ∀ part, Text.WholeLines input part →
        (3 ≤ (Text.tokens part).countP isAccepted ↔
          (run input).rejected.length + 3 ≤ (Text.tokens part).length) :=
      fun part hpart => three_accepted_iff hvalue hpart.tokens_prefix_text
    refine ⟨consumed, happend, hshortest, hshortest.strengthen ?_ ?_⟩
    · exact (hiff consumed hshortest.whole).mpr hshortest.holds
    · exact fun other hother => (hiff other hother).mp
  · intro hended
    rw [run_exhausted input hended]
    rfl

/-- A blank line, a line with four tokens, two of them behind a separator that
ends no line, and more lines after it. -/
def mixedLines : List Char := "\n1\u2028x 2\r3\n\n4 5\n6".toList

/-- A token, a number behind a refused token, and a restart that loses one. -/
def mixedRequests : List Request := [.token, .coefficient "b: ", .restart]

/-- All four tokens of the line are gone after the requests, and the third
number of a run is the last of them. Neither takes the blank line that comes
next. -/
theorem lines_taken_of_mixedLines :
    ((start mixedLines).repliesTo mixedRequests = true ∧
      (start mixedLines).takenBy mixedRequests = 4 ∧
      ((start mixedLines).after mixedRequests).unread = "\n4 5\n6".toList ∧
      Text.IsShortest mixedLines (fun part => 4 ≤ (Text.tokens part).length)
        "\n1\u2028x 2\r3\n".toList) ∧
    (run mixedLines).value.isSome = true ∧
      (run mixedLines).rest.unread = "\n4 5\n6".toList ∧
      Text.IsShortest mixedLines (fun part => 3 ≤ (Text.tokens part).countP isAccepted)
        "\n1\u2028x 2\r3\n".toList := by
  have hreplies : (start mixedLines).repliesTo mixedRequests = true := by decide +kernel
  have htaken : (start mixedLines).takenBy mixedRequests = 4 := by decide +kernel
  have hunread : ((start mixedLines).after mixedRequests).unread = "\n4 5\n6".toList := by
    decide +kernel
  have hvalue : (run mixedLines).value.isSome = true := by decide +kernel
  have hrest : (run mixedLines).rest.unread = "\n4 5\n6".toList := by decide +kernel
  have hinput : mixedLines = "\n1\u2028x 2\r3\n".toList ++ "\n4 5\n6".toList := by decide
  obtain ⟨hrequests, -, hrun, -⟩ := lines_taken_when_needed mixedLines
  obtain ⟨consumed, happend, hshortest, -⟩ := hrequests mixedRequests hreplies
  obtain ⟨consumed', happend', -, hshortest'⟩ := hrun hvalue
  rw [hunread, hinput] at happend
  rw [hrest, hinput] at happend'
  obtain rfl := List.append_cancel_right happend
  obtain rfl := List.append_cancel_right happend'
  rw [htaken] at hshortest
  exact ⟨⟨hreplies, htaken, hunread, hshortest⟩, hvalue, hrest, hshortest'⟩

end Console

end Quadratic
