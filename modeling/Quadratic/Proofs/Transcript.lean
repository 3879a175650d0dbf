/-
Quadratic.Proofs.Transcript — a run, described by the tokens of its whole
input.

The program reads lines, keeps what is left of a line for the next
prompt, and asks again after a refused token. None of this shows in a
transcript: it depends on the row of tokens alone, sorted into ATTEMPTS.
An attempt is an accepted token with the refused ones right before it.

* `Sorting` — a row of tokens as attempts, with the refused tokens that
  are left over after the last one. The proofs that nothing was lost and
  that each token is in its place are part of the type; `Sorting.of`
  sorts any row.
* `readNumber_of_attempt`, `readNumber_of_leftover` — one number is read
  from one attempt; what is left over is refused to the end.
* `readCoefficient_of_attempt`, `readCoefficient_of_leftover` — the same
  under a prompt.
* `reading_of_three`, `reading_of_fewer` — the reading of a whole run, with
  the refused tokens in it.
* `run_of_accepted` — the value of a run, from the accepted tokens alone.
* `run_refines_tokens` — the whole run: the first three attempts are the
  coefficients, and with fewer the run ends under the prompt that found
  none.
-/
import Mathlib.Data.List.Forall2
import Quadratic.Console.Run
import Quadratic.Proofs.Tokens

namespace Quadratic.Console

/-! ## 1. Tokens sorted into attempts -/

/-- Whether a token is accepted. -/
def isAccepted (t : String) : Bool := (numberOf t).isOk

/-- An accepted token with its value and the refused tokens right before
it. -/
structure Attempt where
  refused : List String
  token : String
  value : Binary64
  not_accepted : ∀ t ∈ refused, isAccepted t = false
  numberOf_token : numberOf token = .ok value

/-- The tokens of an attempt, in order. -/
def Attempt.tokens (x : Attempt) : List String := x.refused ++ [x.token]

theorem Attempt.isAccepted_token (x : Attempt) : isAccepted x.token = true := by
  rw [isAccepted, x.numberOf_token]
  rfl

/-- A row of tokens, sorted. -/
structure Sorting (ts : List String) where
  attempts : List Attempt
  leftover : List String
  not_accepted : ∀ t ∈ leftover, isAccepted t = false
  tokens_eq : attempts.flatMap Attempt.tokens ++ leftover = ts

namespace Sorting

/-- A refused token in front belongs to the first attempt, or is left
over if there is none. -/
def consRefused {t : String} {ts : List String} (ht : isAccepted t = false) :
    Sorting ts → Sorting (t :: ts)
  | ⟨[], leftover, hleft, htokens⟩ =>
      ⟨[], t :: leftover, by simpa [ht] using hleft, by simpa using htokens⟩
  | ⟨x :: xs, leftover, hleft, htokens⟩ =>
      ⟨⟨t :: x.refused, x.token, x.value, by simpa [ht] using x.not_accepted,
        x.numberOf_token⟩ :: xs, leftover, hleft, by simpa [Attempt.tokens] using htokens⟩

/-- An accepted token in front is an attempt of its own. -/
def consAccepted {t : String} {x : Binary64} {ts : List String} (ht : numberOf t = .ok x)
    (s : Sorting ts) : Sorting (t :: ts) where
  attempts := ⟨[], t, x, by simp, ht⟩ :: s.attempts
  leftover := s.leftover
  not_accepted := s.not_accepted
  tokens_eq := by simpa [Attempt.tokens] using s.tokens_eq

/-- Every row of tokens can be sorted. -/
def of : (ts : List String) → Sorting ts
  | [] => ⟨[], [], by simp, rfl⟩
  | t :: ts =>
      match h : numberOf t with
      | .ok _ => (of ts).consAccepted h
      | .error _ => (of ts).consRefused (by rw [isAccepted, h]; rfl)

theorem filter_of_refused {us : List String} (h : ∀ t ∈ us, isAccepted t = false) :
    us.filter isAccepted = [] := by
  rw [List.filter_eq_nil_iff]
  intro t ht
  simp [h t ht]

/-- Each attempt has one accepted token. -/
theorem filter_tokens (xs : List Attempt) :
    (xs.flatMap Attempt.tokens).filter isAccepted = xs.map Attempt.token := by
  induction xs with
  | nil => rfl
  | cons x xs ih =>
    rw [List.flatMap_cons, List.filter_append, ih, Attempt.tokens, List.filter_append,
      filter_of_refused x.not_accepted, List.filter_cons_of_pos x.isAccepted_token, List.map_cons]
    rfl

/-- The tokens of the attempts are the accepted ones, in order. -/
theorem map_token_attempts {ts : List String} (s : Sorting ts) :
    s.attempts.map Attempt.token = ts.filter isAccepted := by
  have h := congrArg (List.filter isAccepted) s.tokens_eq
  rw [List.filter_append, filter_tokens, filter_of_refused s.not_accepted,
    List.append_nil] at h
  exact h

/-- There are as many attempts as accepted tokens. -/
theorem length_attempts {ts : List String} (s : Sorting ts) :
    s.attempts.length = ts.countP isAccepted := by
  rw [List.countP_eq_length_filter, ← s.map_token_attempts, List.length_map]

/-- A run finds its three numbers or runs out of attempts. -/
theorem three_or_fewer {ts : List String} (s : Sorting ts) :
    (∃ x y z rest, s.attempts = x :: y :: z :: rest) ∨ s.attempts.length < 3 := by
  match s.attempts with
  | [] | [_] | [_, _] => exact .inr (by simp)
  | x :: y :: z :: rest => exact .inl ⟨x, y, z, rest, rfl⟩

end Sorting

/-! ## 2. Reading a number -/

/-- The text written after so many refused tokens. -/
def retries (n : Nat) : String := String.join (List.replicate n retryMessage)

theorem retries_succ (n : Nat) : retries (n + 1) = retryMessage ++ retries n := by
  rw [retries, List.replicate_succ, String.join_cons, ← retries]

/-- Why the refused ones of some tokens are refused. -/
def refusals (ts : List String) : List TokenError :=
  ts.filterMap fun t =>
    match numberOf t with
    | .ok _ => none
    | .error e => some e

/-- A reading after some tokens were refused. -/
def Reading.afterRefused {α : Type} (us : List String) (r : Reading α) : Reading α :=
  { r with written := retries us.length ++ r.written, rejected := refusals us ++ r.rejected }

theorem exists_error_of_refused {t : String} (h : isAccepted t = false) :
    ∃ e, numberOf t = .error e := by
  unfold isAccepted at h
  cases hn : numberOf t with
  | ok x =>
    rw [hn] at h
    cases h
  | error e => exact ⟨e, rfl⟩

/-- Each refused token has its error, in order. -/
theorem forall₂_refusals {us : List String} (h : ∀ t ∈ us, isAccepted t = false) :
    List.Forall₂ (fun t e => numberOf t = .error e) us (refusals us) := by
  induction us with
  | nil => exact .nil
  | cons t us ih =>
    obtain ⟨e, he⟩ := exists_error_of_refused (h t (List.mem_cons_self ..))
    have hrefusals : refusals (t :: us) = e :: refusals us := by
      rw [refusals, List.filterMap_cons, he, refusals]
    rw [hrefusals]
    exact .cons he (ih fun u hu => h u (List.mem_cons_of_mem _ hu))

theorem Reading.afterRefused_nil {α : Type} (r : Reading α) : r.afterRefused [] = r := by
  simp [Reading.afterRefused, retries, refusals]

theorem Reading.afterRefused_cons {α : Type} {t : String} {e : TokenError}
    (he : numberOf t = .error e) (us : List String) (r : Reading α) :
    r.afterRefused (t :: us) = (r.afterRefused us).afterRetry e := by
  have hrefusals : refusals (t :: us) = e :: refusals us := by
    rw [refusals, List.filterMap_cons, he, refusals]
  rw [Reading.afterRefused, Reading.afterRefused, Reading.afterRetry, List.length_cons,
    retries_succ, hrefusals, String.append_assoc, List.cons_append]

namespace Reader

/-- A refused token is answered with a retry message. -/
theorem readNumber_of_error {r r' : Reader} {t : String} {e : TokenError}
    (hnext : r.next? = some (t, r')) (he : numberOf t = .error e) :
    r.readNumber = r'.readNumber.afterRetry e := by
  rw [readNumber]
  split
  · rename_i h
    rw [hnext] at h
    cases h
  · rename_i h
    rw [hnext] at h
    cases h
    simp only [he]

/-- An accepted token ends the reading. -/
theorem readNumber_of_ok {r r' : Reader} {t : String} {x : Binary64}
    (hnext : r.next? = some (t, r')) (hx : numberOf t = .ok x) :
    r.readNumber = { value := some x, written := "", rejected := [], rest := r' } := by
  rw [readNumber]
  split
  · rename_i h
    rw [hnext] at h
    cases h
  · rename_i h
    rw [hnext] at h
    cases h
    simp only [hx]

theorem readNumber_of_end {r : Reader} (hnext : r.next? = none) :
    r.readNumber = { value := none, written := "", rejected := [], rest := exhausted } := by
  rw [readNumber]
  split
  · rfl
  · rename_i h
    rw [hnext] at h
    cases h

/-- Refused tokens, one after the other, each cost a retry message. -/
theorem readNumber_of_refused {r : Reader} {us rest : List String}
    (hus : ∀ t ∈ us, isAccepted t = false) (h : r.remaining = us ++ rest) :
    ∃ r' : Reader, r'.remaining = rest ∧ r.readNumber = r'.readNumber.afterRefused us := by
  induction us generalizing r with
  | nil => exact ⟨r, h, (Reading.afterRefused_nil _).symm⟩
  | cons t us ih =>
    obtain ⟨r₁, hnext, hr₁⟩ := exists_next?_of_remaining h
    obtain ⟨e, he⟩ := exists_error_of_refused (hus t (List.mem_cons_self ..))
    obtain ⟨r', hr', hread⟩ := ih (fun u hu => hus u (List.mem_cons_of_mem _ hu)) hr₁
    refine ⟨r', hr', ?_⟩
    rw [readNumber_of_error hnext he, hread, Reading.afterRefused_cons he]

/-- One number is read from one attempt. -/
theorem readNumber_of_attempt {r : Reader} (x : Attempt) {rest : List String}
    (h : r.remaining = x.tokens ++ rest) :
    ∃ r' : Reader, r'.remaining = rest ∧
      r.readNumber =
        { value := some x.value, written := retries x.refused.length,
          rejected := refusals x.refused, rest := r' } := by
  rw [Attempt.tokens, List.append_assoc] at h
  obtain ⟨r₁, hr₁, hread⟩ := readNumber_of_refused x.not_accepted h
  obtain ⟨r', hnext, hr'⟩ := exists_next?_of_remaining hr₁
  refine ⟨r', hr', ?_⟩
  rw [hread, readNumber_of_ok hnext x.numberOf_token, Reading.afterRefused,
    String.append_empty, List.append_nil]

/-- Tokens that are all refused are refused to the end. -/
theorem readNumber_of_leftover {r : Reader} (h : ∀ t ∈ r.remaining, isAccepted t = false) :
    r.readNumber =
      { value := none, written := retries r.remaining.length,
        rejected := refusals r.remaining, rest := exhausted } := by
  obtain ⟨r', hr', hread⟩ := readNumber_of_refused h (List.append_nil r.remaining).symm
  rw [hread, readNumber_of_end ((next?_eq_none_iff r').mpr hr'), Reading.afterRefused,
    String.append_empty, List.append_nil]

end Reader

/-! ## 3. The whole run -/

/-- The lines above the first prompt. -/
def opening : String := title ++ "\n" ++ header ++ "\n"

/-- A prompt, followed by a retry message for each refused token. -/
def asked (name : String) (refused : List String) : String :=
  prompt name ++ retries refused.length

/-- The names of the coefficients, in the order of the prompts. -/
def coefficientNames : List String := ["a", "b", "c"]

open Reader

/-- A prompt that is answered by an attempt. -/
theorem readCoefficient_of_attempt (name : String) {r : Reader} (x : Attempt)
    {rest : List String} (h : r.remaining = x.tokens ++ rest) :
    ∃ r' : Reader, r'.remaining = rest ∧
      r.readCoefficient (prompt name) =
        { value := some x.value, written := asked name x.refused,
          rejected := refusals x.refused, rest := r' } := by
  obtain ⟨r', hr', hread⟩ := readNumber_of_attempt x h
  refine ⟨r', hr', ?_⟩
  rw [readCoefficient, hread, Reading.afterText, asked]

/-- A prompt that is not answered. -/
theorem readCoefficient_of_leftover (name : String) {r : Reader} {us : List String}
    (h : r.remaining = us) (hus : ∀ t ∈ us, isAccepted t = false) :
    r.readCoefficient (prompt name) =
      { value := none, written := asked name us, rejected := refusals us,
        rest := exhausted } := by
  subst h
  rw [readCoefficient, readNumber_of_leftover hus, Reading.afterText, asked]

theorem remaining_of_sorting {input : List Char} (s : Sorting (Text.tokens input)) :
    (start input).remaining = s.attempts.flatMap Attempt.tokens ++ s.leftover := by
  rw [remaining_start, s.tokens_eq]

theorem refusals_append (us vs : List String) : refusals (us ++ vs) = refusals us ++ refusals vs :=
  List.filterMap_append

/-- The reading of a run whose input holds three numbers. -/
theorem reading_of_three {input : List Char} (s : Sorting (Text.tokens input)) {x y z : Attempt}
    {rest : List Attempt} (h : s.attempts = x :: y :: z :: rest) :
    ∃ r, run input =
      { value := some (Evaluation.of ⟨x.value, y.value, z.value⟩)
        written := opening ++ asked "a" x.refused ++ asked "b" y.refused ++ asked "c" z.refused ++
          (Evaluation.of ⟨x.value, y.value, z.value⟩).report
        rejected := refusals (x.refused ++ y.refused ++ z.refused)
        rest := r } := by
  have htokens := remaining_of_sorting s
  rw [h, List.flatMap_cons, List.flatMap_cons, List.flatMap_cons, List.append_assoc,
    List.append_assoc, List.append_assoc] at htokens
  obtain ⟨r₁, hr₁, hx⟩ := readCoefficient_of_attempt "a" x htokens
  obtain ⟨r₂, hr₂, hy⟩ := readCoefficient_of_attempt "b" y hr₁
  obtain ⟨r₃, hr₃, hz⟩ := readCoefficient_of_attempt "c" z hr₂
  refine ⟨r₃, ?_⟩
  simp only [run, readAll, hx, hy, hz, Reading.andThen, Reading.afterText, opening,
    refusals_append, String.append_assoc, String.append_empty, List.append_assoc, List.append_nil]

/-- The reading of a run whose input ends before the third number. -/
theorem reading_of_fewer {input : List Char} (s : Sorting (Text.tokens input))
    (h : s.attempts.length < 3) :
    ∃ r, run input =
      { value := none
        written := opening ++ String.join (List.zipWith asked coefficientNames
          (s.attempts.map Attempt.refused ++ [s.leftover]))
        rejected := refusals (s.attempts.flatMap Attempt.refused ++ s.leftover)
        rest := r } := by
  have hleft := s.not_accepted
  have htokens := remaining_of_sorting s
  refine ⟨exhausted, ?_⟩
  generalize s.leftover = leftover at hleft htokens
  -- The cases are the prompts at which the input may end.
  match hattempts : s.attempts, h with
  | [], _ =>
    rw [hattempts, List.flatMap_nil, List.nil_append] at htokens
    have hx := readCoefficient_of_leftover "a" htokens hleft
    simp [run, readAll, hx, Reading.andThen, Reading.afterText, opening, coefficientNames,
      String.append_assoc]
  | [x], _ =>
    rw [hattempts, List.flatMap_singleton] at htokens
    obtain ⟨r₁, hr₁, hx⟩ := readCoefficient_of_attempt "a" x htokens
    have hy := readCoefficient_of_leftover "b" hr₁ hleft
    simp [run, readAll, hx, hy, Reading.andThen, Reading.afterText, opening, coefficientNames,
      refusals_append, String.append_assoc]
  | [x, y], _ =>
    rw [hattempts, List.flatMap_cons, List.flatMap_singleton, List.append_assoc] at htokens
    obtain ⟨r₁, hr₁, hx⟩ := readCoefficient_of_attempt "a" x htokens
    obtain ⟨r₂, hr₂, hy⟩ := readCoefficient_of_attempt "b" y hr₁
    have hz := readCoefficient_of_leftover "c" hr₂ hleft
    simp [run, readAll, hx, hy, hz, Reading.andThen, Reading.afterText, opening,
      coefficientNames, refusals_append, String.append_assoc]

/-- A run whose input holds three numbers. -/
theorem run_of_three {input : List Char} (s : Sorting (Text.tokens input)) {x y z : Attempt}
    {rest : List Attempt} (h : s.attempts = x :: y :: z :: rest) :
    (run input).value = some (Evaluation.of ⟨x.value, y.value, z.value⟩) ∧
      (run input).written =
        opening ++ asked "a" x.refused ++ asked "b" y.refused ++ asked "c" z.refused ++
          (Evaluation.of ⟨x.value, y.value, z.value⟩).report := by
  obtain ⟨r, hr⟩ := reading_of_three s h
  rw [hr]
  exact ⟨rfl, rfl⟩

/-- A run whose input ends before the third number. -/
theorem run_of_fewer {input : List Char} (s : Sorting (Text.tokens input))
    (h : s.attempts.length < 3) :
    (run input).value = none ∧
      (run input).written =
        opening ++ String.join (List.zipWith asked coefficientNames
          (s.attempts.map Attempt.refused ++ [s.leftover])) := by
  obtain ⟨r, hr⟩ := reading_of_fewer s h
  rw [hr]
  exact ⟨rfl, rfl⟩

/-- A run has a value exactly if its input holds three accepted tokens. -/
theorem isSome_value_run_iff (input : List Char) :
    (run input).value.isSome = true ↔ 3 ≤ (Text.tokens input).countP isAccepted := by
  let s := Sorting.of (Text.tokens input)
  rw [← s.length_attempts]
  rcases s.three_or_fewer with ⟨x, y, z, rest, hattempts⟩ | hfew
  · simp [(run_of_three s hattempts).1, hattempts]
  · simp [(run_of_fewer s hfew).1, hfew]

/-- What a run with a value has read and written. -/
theorem exists_attempts_of_value {input : List Char} {e : Evaluation}
    (h : (run input).value = some e) :
    ∃ x y z : Attempt, e = Evaluation.of ⟨x.value, y.value, z.value⟩ ∧
      (run input).written =
        opening ++ asked "a" x.refused ++ asked "b" y.refused ++ asked "c" z.refused ++
          e.report := by
  let s := Sorting.of (Text.tokens input)
  rcases s.three_or_fewer with ⟨x, y, z, rest, hattempts⟩ | hfew
  · obtain ⟨hvalue, hwritten⟩ := run_of_three s hattempts
    rw [h] at hvalue
    obtain rfl := Option.some.inj hvalue
    exact ⟨x, y, z, rfl, hwritten⟩
  · rw [(run_of_fewer s hfew).1] at h
    cases h

/-- The value of a run, found among the accepted tokens. -/
theorem run_of_accepted {input : List Char} {ta tb tc : String} {rest : List String}
    (h : (Text.tokens input).filter isAccepted = ta :: tb :: tc :: rest) :
    ∃ a b c, numberOf ta = .ok a ∧ numberOf tb = .ok b ∧ numberOf tc = .ok c ∧
      (run input).value = some (Evaluation.of ⟨a, b, c⟩) := by
  let s := Sorting.of (Text.tokens input)
  have htokens := s.map_token_attempts
  rw [h] at htokens
  rcases s.three_or_fewer with ⟨x, y, z, rest, hattempts⟩ | hfew
  · simp only [hattempts, List.map_cons, List.cons.injEq] at htokens
    obtain ⟨rfl, rfl, rfl, -⟩ := htokens
    exact ⟨x.value, y.value, z.value, x.numberOf_token, y.numberOf_token, z.numberOf_token,
      (run_of_three s hattempts).1⟩
  · have hlength := congrArg List.length htokens
    simp only [List.length_map, List.length_cons] at hlength
    omega

/-- A run against its tokens, however they are spread over the lines. The
tokens of the input can be sorted, and have as many attempts as accepted
tokens. The first three are the coefficients, each asked for until it is
found, and the report follows. With fewer the run has no value, and the
prompt that found none is the last thing it writes, with a retry message
for each token left over. -/
theorem run_refines_tokens (input : List Char) :
    Nonempty (Sorting (Text.tokens input)) ∧
    ∀ s : Sorting (Text.tokens input),
      s.attempts.length = (Text.tokens input).countP isAccepted ∧
      (∀ x y z rest, s.attempts = x :: y :: z :: rest →
        (run input).value = some (Evaluation.of ⟨x.value, y.value, z.value⟩) ∧
        (run input).written =
          opening ++ asked "a" x.refused ++ asked "b" y.refused ++ asked "c" z.refused ++
            (Evaluation.of ⟨x.value, y.value, z.value⟩).report) ∧
      (s.attempts.length < 3 →
        (run input).value = none ∧
        (run input).written =
          opening ++ String.join (List.zipWith asked coefficientNames
            (s.attempts.map Attempt.refused ++ [s.leftover]))) := by
  refine ⟨⟨Sorting.of (Text.tokens input)⟩, ?_⟩
  intro s
  refine ⟨s.length_attempts, ?_, ?_⟩
  · intro x y z rest h
    exact run_of_three s h
  · intro h
    exact run_of_fewer s h

theorem numberOf_of_toOption {t : String} {x : Binary64} (h : (numberOf t).toOption = some x) :
    numberOf t = .ok x := by
  cases hn : numberOf t with
  | ok y =>
    rw [hn] at h
    exact congrArg Except.ok (Option.some.inj h)
  | error e =>
    rw [hn] at h
    cases h

/-- Tokens on several lines, some of them refused, and one too many. -/
def scattered : List Char := "x 1\n\n-2 ? y\n 1 9".toList

/-- An input that ends under the second prompt. -/
def truncated : List Char := "7\nx".toList

/-- The numbers 1, -2 and 1 are found among the scattered tokens; the
truncated input holds one number and a token left over. -/
theorem run_of_scattered_and_truncated :
    (∃ x y z, numberOf "1" = .ok x ∧ numberOf "-2" = .ok y ∧ numberOf "1" = .ok z ∧
      (run scattered).value = some (Evaluation.of ⟨x, y, z⟩) ∧
      (run scattered).written =
        opening ++ asked "a" ["x"] ++ asked "b" [] ++ asked "c" ["?", "y"] ++
          (Evaluation.of ⟨x, y, z⟩).report) ∧
    (run truncated).value = none ∧
    (run truncated).written = opening ++ String.join [asked "a" [], asked "b" ["x"]] := by
  have hone : numberOf "1" = .ok (.finite .plus ⟨0x3ff0000000000000, by decide⟩) :=
    numberOf_of_toOption (by decide +kernel)
  have htwo : numberOf "-2" = .ok (.finite .minus ⟨0x4000000000000000, by decide⟩) :=
    numberOf_of_toOption (by decide +kernel)
  have hseven : numberOf "7" = .ok (.finite .plus ⟨0x401c000000000000, by decide⟩) :=
    numberOf_of_toOption (by decide +kernel)
  have hnine : numberOf "9" = .ok (.finite .plus ⟨0x4022000000000000, by decide⟩) :=
    numberOf_of_toOption (by decide +kernel)
  have hscattered : Text.tokens scattered = ["x", "1", "-2", "?", "y", "1", "9"] := by
    decide +kernel
  have htruncated : Text.tokens truncated = ["7", "x"] := by decide +kernel
  let s : Sorting (Text.tokens scattered) :=
    ⟨[⟨["x"], "1", _, by decide +kernel, hone⟩, ⟨[], "-2", _, by simp, htwo⟩,
      ⟨["?", "y"], "1", _, by decide +kernel, hone⟩, ⟨[], "9", _, by simp, hnine⟩],
      [], by simp, hscattered.symm⟩
  let s' : Sorting (Text.tokens truncated) :=
    ⟨[⟨[], "7", _, by simp, hseven⟩], ["x"], by decide +kernel, htruncated.symm⟩
  have hfew : s'.attempts.length < 3 := by
    show 1 < 3
    decide
  obtain ⟨hvalue, hwritten⟩ := ((run_refines_tokens scattered).2 s).2.1 _ _ _ _ rfl
  exact ⟨⟨_, _, _, hone, htwo, hone, hvalue, hwritten⟩,
    ((run_refines_tokens truncated).2 s').2.2 hfew⟩

end Quadratic.Console
