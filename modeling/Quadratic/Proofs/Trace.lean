/-
Quadratic.Proofs.Trace — the log of a run tells the same story as its
transcript.

A run writes to two places. The transcript has a retry message for each
token that was refused, and ends with the report or under a prompt; the
log has a record for each of these things, in the same order, of which
the handler of the session writes those that are severe enough.

* `rejected_run` — the tokens that a run refuses.
* `occurrences_retryMessage` — as many retry messages can be found in the
  transcript, and not one more, wherever they are looked for.
* `written_run` — what a run writes to the error stream is what its events
  are delivered to, one after the other.
* `trace_of_run` — both places together, after any history of a session.
-/
import Quadratic.Proofs.Delivery
import Quadratic.Proofs.Report

namespace Quadratic

namespace Console

/-! ## 1. The tokens that a run refuses -/

/-- The tokens that are refused before a run has its three numbers, or
before its input ends. -/
def Sorting.refused {ts : List String} (s : Sorting ts) : List String :=
  (s.attempts.take 3).flatMap Attempt.refused ++ if s.attempts.length < 3 then s.leftover else []

theorem Sorting.isAccepted_of_mem_refused {ts : List String} (s : Sorting ts) :
    ∀ t ∈ s.refused, isAccepted t = false := by
  intro t ht
  rcases List.mem_append.mp ht with ht | ht
  · obtain ⟨x, -, hx⟩ := List.mem_flatMap.mp ht
    exact x.not_accepted t hx
  · split at ht
    · exact s.not_accepted t ht
    · cases ht

theorem rejected_run {input : List Char} (s : Sorting (Text.tokens input)) :
    (run input).rejected = refusals s.refused := by
  rcases s.three_or_fewer with ⟨x, y, z, rest, hattempts⟩ | hfew
  · obtain ⟨r, hr⟩ := reading_of_three s hattempts
    have hmany : ¬ s.attempts.length < 3 := by
      rw [hattempts]
      exact Nat.not_lt.mpr (Nat.le_add_left 3 rest.length)
    rw [hr, Sorting.refused, if_neg hmany, hattempts]
    simp
  · obtain ⟨r, hr⟩ := reading_of_fewer s hfew
    have htake : s.attempts.take 3 = s.attempts := List.take_of_length_le (by omega)
    rw [hr, Sorting.refused, htake, if_pos hfew]

/-! ## 2. Retry messages in a text -/

/-- The number of places at which a text can be found in another. -/
def occurrences (p : List Char) : List Char → Nat
  | [] => 0
  | c :: cs => (if p.isPrefixOf (c :: cs) then 1 else 0) + occurrences p cs

theorem occurrences_append_le (p s t : List Char) :
    occurrences p s + occurrences p t ≤ occurrences p (s ++ t) := by
  induction s with
  | nil => simp [occurrences]
  | cons c cs ih =>
    have hbegins : p.isPrefixOf (c :: cs) = true → p.isPrefixOf (c :: (cs ++ t)) = true := by
      rw [List.isPrefixOf_iff_prefix, List.isPrefixOf_iff_prefix, ← List.cons_append]
      exact fun h => h.trans (List.prefix_append ..)
    rw [List.cons_append, occurrences, occurrences]
    split
    · rename_i h
      rw [if_pos (hbegins h)]
      omega
    · omega

/-- A text is found at most as often as the character in one of its
places. -/
theorem occurrences_le_count {p : List Char} {k : Nat} {c : Char} (h : p[k]? = some c)
    (t : List Char) : occurrences p t ≤ (t.drop k).count c := by
  induction t with
  | nil => simp [occurrences]
  | cons d ds ih =>
    have hdrop : ds.drop k = (d :: ds).drop (k + 1) := rfl
    rw [occurrences]
    split
    · rename_i hbegins
      obtain ⟨rest, hrest⟩ := List.isPrefixOf_iff_prefix.mp hbegins
      have hk : k < p.length := (List.getElem?_eq_some_iff.mp h).1
      have hget : (d :: ds)[k]? = some c := by
        rw [← hrest, List.getElem?_append_left hk, h]
      have hlt : k < (d :: ds).length := (List.getElem?_eq_some_iff.mp hget).1
      have hc : (d :: ds)[k] = c := (List.getElem?_eq_some_iff.mp hget).2
      rw [List.drop_eq_getElem_cons hlt, hc, List.count_cons_self, ← hdrop]
      omega
    · have hsuffix : (ds.drop k).Sublist ((d :: ds).drop k) := by
        rw [hdrop, List.drop_add_one_eq_tail_drop]
        exact List.tail_sublist _
      have := hsuffix.count_le c
      omega

/-- A text in which so many retry messages can be found, and the mark of
one just as often. -/
structure HasRetries (s : String) (n : Nat) : Prop where
  le_occurrences : n ≤ occurrences retryMessage.toList s.toList
  count_eq : s.toList.count '!' = n

theorem HasRetries.append {s t : String} {m n : Nat} (hs : HasRetries s m) (ht : HasRetries t n) :
    HasRetries (s ++ t) (m + n) where
  le_occurrences := by
    rw [String.toList_append]
    exact Nat.le_trans (Nat.add_le_add hs.le_occurrences ht.le_occurrences)
      (occurrences_append_le ..)
  count_eq := by rw [String.toList_append, List.count_append, hs.count_eq, ht.count_eq]

theorem HasRetries.of_not_mem {s : String} (h : '!' ∉ s.toList) : HasRetries s 0 where
  le_occurrences := Nat.zero_le _
  count_eq := List.count_eq_zero.mpr h

/-- The mark stands in one place of the message, so no message is found
that was not written. -/
theorem HasRetries.occurrences_eq {s : String} {n : Nat} (h : HasRetries s n) :
    occurrences retryMessage.toList s.toList = n := by
  have hmark : retryMessage.toList[34]? = some '!' := by decide
  have hle := occurrences_le_count hmark s.toList
  have hdrop := (List.drop_sublist 34 s.toList).count_le '!'
  have hge := h.le_occurrences
  have hcount := h.count_eq
  omega

theorem hasRetries_retries (n : Nat) : HasRetries (retries n) n := by
  induction n with
  | zero => exact .of_not_mem (by decide)
  | succ n ih =>
    have hone : HasRetries retryMessage 1 := ⟨by decide, by decide⟩
    rw [retries_succ, Nat.add_comm]
    exact hone.append ih

theorem hasRetries_asked {name : String} (hname : name ∈ coefficientNames) (us : List String) :
    HasRetries (asked name us) us.length := by
  have hprompt : ∀ name ∈ coefficientNames, '!' ∉ (prompt name).toList := by decide
  have h := (HasRetries.of_not_mem (hprompt name hname)).append (hasRetries_retries us.length)
  rwa [Nat.zero_add] at h

/-- Prompts, one after the other. -/
theorem hasRetries_join {names : List String} (hnames : ∀ name ∈ names, name ∈ coefficientNames)
    {refused : List (List String)} (hlength : refused.length ≤ names.length) :
    HasRetries (String.join (List.zipWith asked names refused)) refused.flatten.length := by
  induction refused generalizing names with
  | nil =>
    rw [List.zipWith_nil_right]
    exact .of_not_mem (by decide)
  | cons us refused ih =>
    cases names with
    | nil => cases hlength
    | cons name names =>
      have hfirst := hasRetries_asked (hnames name (List.mem_cons_self ..)) us
      have hrest := ih (fun n hn => hnames n (List.mem_cons_of_mem _ hn))
        (Nat.le_of_succ_le_succ hlength)
      rw [List.zipWith_cons_cons, String.join_cons, List.flatten_cons, List.length_append]
      exact hfirst.append hrest

/-- A report has no mark of a retry message in it. -/
theorem hasRetries_report (e : Evaluation) : HasRetries e.report 0 := by
  have hnumber : ∀ x, HasRetries (Style.report.text x) 0 := by
    intro x
    refine .of_not_mem fun hmem => ?_
    have hdigit : ∀ c : Char, c.isDigit = true → (c == '!') = false := by
      intro c hc
      rw [beq_eq_false_iff_ne]
      rintro rfl
      cases hc
    rw [toList_text] at hmem
    have hnot := report_not_mem hdigit rfl rfl rfl (by decide) x _ hmem
    cases hnot
  have hname : HasRetries e.rootCount.message 0 := by
    cases e.rootCount <;> exact .of_not_mem (by decide)
  have hequation : HasRetries e.coefficients.equation 0 :=
    ((((hnumber _).append (.of_not_mem (by decide) : HasRetries "x² + " 0)).append
      (hnumber _)).append (.of_not_mem (by decide) : HasRetries "x + " 0)).append (hnumber _)
  have hheader : HasRetries ("\n" ++ Evaluation.resultsHeader ++ "\n" ++ "Equation: ") 0 :=
    .of_not_mem (by decide)
  have hmiddle : HasRetries ("\n" ++ "Discriminant = ") 0 := .of_not_mem (by decide)
  have hend : HasRetries "\n" 0 := .of_not_mem (by decide)
  have h := (((hheader.append hequation).append hmiddle).append (hnumber e.discriminant)).append
    ((hend.append hname).append hend)
  simpa only [Evaluation.report, String.append_assoc] using h

/-- As many retry messages are found in the transcript as tokens were
refused. -/
theorem occurrences_retryMessage (input : List Char) :
    occurrences retryMessage.toList (run input).written.toList = (run input).rejected.length := by
  let s := Sorting.of (Text.tokens input)
  have hlength := (forall₂_refusals s.isAccepted_of_mem_refused).length_eq
  have hopening : HasRetries opening 0 := .of_not_mem (by decide)
  refine HasRetries.occurrences_eq ?_
  rw [rejected_run s, ← hlength]
  rcases s.three_or_fewer with ⟨x, y, z, rest, hattempts⟩ | hfew
  · obtain ⟨r, hr⟩ := reading_of_three s hattempts
    have hrefused : s.refused.length =
        0 + x.refused.length + y.refused.length + z.refused.length + 0 := by
      simp [Sorting.refused, hattempts, Nat.add_assoc]
    rw [hr, hrefused]
    exact (((hopening.append (hasRetries_asked (by decide) x.refused)).append
      (hasRetries_asked (by decide) y.refused)).append
      (hasRetries_asked (by decide) z.refused)).append (hasRetries_report _)
  · obtain ⟨r, hr⟩ := reading_of_fewer s hfew
    have htake : s.attempts.take 3 = s.attempts := List.take_of_length_le (by omega)
    have hrefused : s.refused.length =
        0 + (s.attempts.map Attempt.refused ++ [s.leftover]).flatten.length := by
      simp [Sorting.refused, htake, if_pos hfew, List.flatMap]
    have hasked : (s.attempts.map Attempt.refused ++ [s.leftover]).length ≤
        coefficientNames.length := by
      rw [List.length_append, List.length_map]
      exact hfew
    rw [hr, hrefused]
    exact hopening.append (hasRetries_join (fun _ h => h) hasked)

end Console

namespace Session

open Log (Diagnostic LevelName Record Time)
open Console (Sorting numberOf occurrences retryMessage)

/-! ## 3. What a run writes to the error stream -/

/-- The warning that a run begins with: the logger is not configured, and
the settings of the session are invalid. -/
def warningOf (s : State) : List Diagnostic :=
  if s.logger.configured then []
  else
    match s.settings with
    | .ok _ => []
    | .error ps => [.settingsInvalid ps]

theorem effectiveLevel_standard {s s' : State} (hconfigured : s.logger.configured = false)
    (h : s.configure Settings.standard.toUnchecked = .ok s') :
    s'.logger.effectiveLevel = LevelName.warning.number := by
  unfold State.configure at h
  rw [if_neg (Bool.eq_false_iff.mp hconfigured)] at h
  cases h
  rfl

/-- The warning is written, and never below the floor: the settings that
take the place of the invalid ones are the standard ones. -/
theorem warnings_configureForRun {s s' : State} {warnings : List Emission}
    (h : s.configureForRun = .ok (s', warnings)) :
    warnings = (warningOf s).flatMap s'.report ∧
      ∀ d ∈ warningOf s, s'.logger.effectiveLevel ≤ d.level := by
  unfold warningOf
  cases runConfiguration h with
  | kept hconfigured =>
    rw [if_pos hconfigured]
    exact ⟨rfl, List.forall_mem_nil _⟩
  | settings hconfigured hsettings =>
    rw [if_neg (Bool.eq_false_iff.mp hconfigured), hsettings]
    exact ⟨rfl, List.forall_mem_nil _⟩
  | standard hconfigured hsettings hconfigure =>
    rw [if_neg (Bool.eq_false_iff.mp hconfigured), hsettings]
    refine ⟨(List.flatMap_singleton ..).symm, fun d hd => ?_⟩
    obtain rfl := List.mem_singleton.mp hd
    rw [effectiveLevel_standard hconfigured hconfigure]
    exact Int.le_refl _

/-- The events of a run are delivered one after the other, the warning
first. -/
theorem written_run (s : State) (input : List Char) :
    (s.run input).2.written =
      (warningOf s ++ Diagnostic.ofRun (Console.run input)).flatMap (s.run input).1.report := by
  obtain ⟨⟨s', warnings⟩, hr⟩ := configureForRun_ok s
  rw [State.run, hr, List.flatMap_append, ← (warnings_configureForRun hr).1]

/-- The record of an event. -/
def eventRecord (s : State) (d : Diagnostic) : Record :=
  s.record d.logger d.level d.short_level d.origin (.string d.message) []

theorem message_eventRecord (s : State) (d : Diagnostic) :
    (eventRecord s d).message = .ok d.message := by
  refine message_record s ?_
  exact congrArg Except.ok String.ofList_toList

theorem isPart_logger (d : Diagnostic) : IsPart d.logger := by
  cases d with
  | settingsInvalid ps => exact .inr ⟨"calculator.app", rfl, by decide⟩
  | tokenRejected e => exact .inr ⟨"calculator.reader", rfl, by decide⟩
  | computed e => exact .inr ⟨"core.math.discriminant", rfl, by decide⟩
  | finished e => exact .inr ⟨"calculator.app", rfl, by decide⟩
  | aborted => exact .inr ⟨"calculator.app", rfl, by decide⟩

theorem level_pos (d : Diagnostic) : 0 < d.level := by
  have hwarning : 0 < LevelName.warning.number := by decide
  have hdebug : 0 < LevelName.debug.number := by decide
  have hinfo : 0 < LevelName.info.number := by decide
  have herror : 0 < LevelName.error.number := by decide
  cases d with
  | settingsInvalid ps => exact hwarning
  | tokenRejected e => exact hdebug
  | computed e => exact hdebug
  | finished e => exact hinfo
  | aborted => exact herror

/-- Of some events, those that are severe enough are written to the
handler that was installed, each in one line. -/
theorem exists_lines {s : State} (hs : s.IsConsistent) {h : Handler} {threshold : Threshold}
    (hlogger : s.logger = Logger.initial.install h threshold) (hclock : s.clock.IsShown)
    (ds : List Diagnostic) :
    ∃ lines,
      List.Forall₂ (fun d line => (eventRecord s d).lineAs h.format = .ok line)
        (ds.filter fun d => threshold.floor ≤ d.level) lines ∧
      ds.flatMap s.report = lines.map fun line => ⟨h.stream, line ++ "\n"⟩ := by
  induction ds with
  | nil => exact ⟨[], .nil, rfl⟩
  | cons d ds ih =>
    obtain ⟨lines, hlines, hwritten⟩ := ih
    obtain ⟨line, hline⟩ := Log.Entry.exists_lineAs _ (message_eventRecord s d) hclock
      Decimal.isShort_zero h.format
    have hreport : s.report d = _ := deliver_of_installed hlogger hs (isPart_logger d) hline
    rw [List.flatMap_cons, hreport, hwritten]
    by_cases hlevel : threshold.floor ≤ d.level
    · refine ⟨line :: lines, ?_, ?_⟩
      · rw [List.filter_cons_of_pos (by simpa using hlevel)]
        exact .cons hline hlines
      · rw [if_pos ⟨level_pos d, hlevel⟩]
        rfl
    · refine ⟨lines, ?_, ?_⟩
      · rw [List.filter_cons_of_neg (by simpa using hlevel)]
        exact hlines
      · rw [if_neg fun h => hlevel h.2]
        rfl

/-! ## 4. The whole run -/

/-- What a run writes after any history: the warning, and the records from
the floor of the installation on. -/
theorem exists_lines_of_run (environment : Settings.Environment) {clock : Time}
    (hclock : clock.IsShown) {history : List Step} {input : List Char} :
    let start := State.initial environment clock
    ∀ i : Installation start (history ++ [.run input]), ∃ lines,
      List.Forall₂
        (fun d line =>
          (eventRecord (after start history) d).lineAs i.settings.lineFormat = .ok line)
        (warningOf (after start history) ++
          (Diagnostic.ofRun (Console.run input)).filter fun d => i.floor ≤ d.level) lines ∧
      ((after start history).run input).2.written =
        lines.map fun line => ⟨i.stream, line ++ "\n"⟩ := by
  intro start i
  have hstart : start.logger = .initial := rfl
  let s := after start history
  obtain ⟨⟨s', warnings⟩, hrun⟩ := configureForRun_ok s
  have hs' : (s.run input).1 = s' := by rw [State.run, hrun]
  have hconfigured := configured_configureForRun hrun
  have hclock' : s'.clock.IsShown := by
    rw [hconfigured.clock_eq, clock_after]
    exact hclock
  have hlogger : s'.logger = Logger.initial.install i.handler i.threshold := by
    rw [← hs', ← i.logger_eq hstart, after_concat]
    rfl
  have hconsistent : s'.IsConsistent := by
    have hafter := isConsistent_after environment clock (history ++ [.run input])
    rw [after_concat] at hafter
    exact hs' ▸ hafter
  obtain ⟨lines, hlines, hwritten⟩ :=
    exists_lines hconsistent hlogger hclock' (warningOf s ++ Diagnostic.ofRun (Console.run input))
  -- A record shows nothing of the state but its clock, and the warning is
  -- never below the floor.
  have hrecord : eventRecord s' = eventRecord s := by
    funext d
    simp only [eventRecord, State.record, hconfigured.clock_eq]
  have hwarning : (warningOf s).filter (fun d => i.floor ≤ d.level) = warningOf s := by
    rw [List.filter_eq_self]
    intro d hd
    have hfloor := (warnings_configureForRun hrun).2 d hd
    rw [hlogger] at hfloor
    exact decide_eq_true hfloor
  rw [hrecord, List.filter_append] at hlines
  refine ⟨lines, hwarning ▸ hlines, ?_⟩
  rw [← hs'] at hwritten
  exact (written_run s input).trans hwritten

/-- What a record shows of an event, apart from its place: its severity and
its message. -/
def shown (d : Diagnostic) : Int × String := (d.level, d.message)

/-- The records of refused tokens. -/
def rejections (errors : List Console.TokenError) : List (Int × String) :=
  errors.map fun e => (LevelName.debug.number, "rejected token: " ++ e.message)

theorem map_shown_ofRun (r : Console.Reading Evaluation) :
    (Diagnostic.ofRun r).map shown = rejections r.rejected ++
      match r.value with
      | some e =>
          [(LevelName.debug.number, Diagnostic.computedMessage e),
            (LevelName.info.number, "Done: " ++ e.details)]
      | none => [(LevelName.error.number, "Aborted: " ++ Console.endOfInputMessage)] := by
  rw [Diagnostic.ofRun, List.map_append, List.map_map, rejections]
  cases r.value with
  | some e => rfl
  | none => rfl

/-- The last event of a run says whether it has a value. -/
theorem getLast?_ofRun (r : Console.Reading Evaluation) :
    (∃ e, (Diagnostic.ofRun r).getLast? = some (.finished e)) ↔ exitCode r.value = 0 := by
  rw [Diagnostic.ofRun]
  cases r.value with
  | some e => exact ⟨fun _ => rfl, fun _ => ⟨e, by simp⟩⟩
  | none =>
    constructor
    · rintro ⟨e, he⟩
      simp at he
    · intro h
      cases h

/-- A run after any history of a session. Its trace begins with a record
for each token that it refused, in the order of the input and with the
error of the token; then come the computation and the result of the three
numbers that were accepted, or one record that says why there are none.
What is written to the error stream is the warning about the settings, if
there is one, and the trace, less the records below the floor: one line
each, to the stream and in the form of the installation that is in effect
when the run is over. As many retry messages are found in the transcript
as there are records of refused tokens, and the last record is the result
exactly if the exit code is zero. -/
theorem trace_of_run (environment : Settings.Environment) {clock : Time} (hclock : clock.IsShown)
    (history : List Step) (input : List Char) :
    let start := State.initial environment clock
    let s := after start history
    let r := Console.run input
    let trace := Diagnostic.ofRun r
    let answer := (step s (.run input)).2
    (∀ sorting : Sorting (Text.tokens input),
      List.Forall₂ (fun t e => numberOf t = .error e) sorting.refused r.rejected ∧
      (∀ x y z rest, sorting.attempts = x :: y :: z :: rest →
        ∃ e, e = Evaluation.of ⟨x.value, y.value, z.value⟩ ∧
          trace.map shown = rejections r.rejected ++
            [(LevelName.debug.number, Diagnostic.computedMessage e),
              (LevelName.info.number, "Done: " ++ e.details)]) ∧
      (sorting.attempts.length < 3 →
        trace.map shown = rejections r.rejected ++
          [(LevelName.error.number, "Aborted: " ++ Console.endOfInputMessage)])) ∧
    Nonempty (Installation start (history ++ [.run input])) ∧
    (∀ i : Installation start (history ++ [.run input]), ∃ lines,
      List.Forall₂ (fun d line => (eventRecord s d).lineAs i.settings.lineFormat = .ok line)
        (warningOf s ++ trace.filter fun d => i.floor ≤ d.level) lines ∧
      answer.written = lines.map fun line => ⟨i.stream, line ++ "\n"⟩) ∧
    ∃ code, answer.outcome = .exited code r.written ∧
      occurrences retryMessage.toList r.written.toList = (rejections r.rejected).length ∧
      ((∃ e, trace.getLast? = some (.finished e)) ↔ code = 0) := by
  intro start s r trace answer
  have hstart : start.logger = .initial := rfl
  have hafter : after start (history ++ [.run input]) = (s.run input).1 := after_concat ..
  obtain ⟨⟨s', warnings⟩, hrun⟩ := configureForRun_ok s
  have hs' : (s.run input).1 = s' := by rw [State.run, hrun]
  have hconfigured := configured_configureForRun hrun
  refine ⟨fun sorting => ⟨?_, fun x y z rest hattempts => ?_, fun hfew => ?_⟩, ?_, fun i => ?_,
    exitCode r.value, outcome_run s input, ?_, getLast?_ofRun r⟩
  · rw [Console.rejected_run sorting]
    exact Console.forall₂_refusals sorting.isAccepted_of_mem_refused
  · have hvalue := (Console.run_of_three sorting hattempts).1
    exact ⟨_, rfl, by rw [map_shown_ofRun, hvalue]⟩
  · rw [map_shown_ofRun, (Console.run_of_fewer sorting hfew).1]
  · refine exists_installation hstart ?_
    rw [hafter, hs']
    exact hconfigured.configured
  · exact exists_lines_of_run environment hclock i
  · rw [rejections, List.length_map]
    exact Console.occurrences_retryMessage input

/-- The logger is configured for severity DEBUG. In one run the only token is
refused, in another all three are accepted. -/
theorem trace_of_run_refused_and_accepted :
    let s := after (State.initial [] ⟨0, 0⟩)
      [.configureUnchecked [("log_level", .string "DEBUG")]]
    (∃ first second,
      (eventRecord s (.tokenRejected (.notDecimal "x"))).lineAs .text = .ok first ∧
      (eventRecord s .aborted).lineAs .text = .ok second ∧
      (step s (.run "x".toList)).2.written = [⟨0, first ++ "\n"⟩, ⟨0, second ++ "\n"⟩]) ∧
    ∃ e first second, (Console.run "1 -3 2".toList).value = some e ∧ e.rootCount = .two ∧
      (eventRecord s (.computed e)).lineAs .text = .ok first ∧
      (eventRecord s (.finished e)).lineAs .text = .ok second ∧
      (step s (.run "1 -3 2".toList)).2.written = [⟨0, first ++ "\n"⟩, ⟨0, second ++ "\n"⟩] := by
  intro s
  have hclock : Time.IsShown ⟨0, 0⟩ := ⟨_, rfl⟩
  let installation (input : List Char) :=
    (configuredAlone ⟨0, 0⟩ (v := .string "DEBUG") rfl).concat (t := .run input) Step.noConfusion
  -- Two events are two lines, none of them below the floor.
  have htwo {input : List Char} {d d' : Diagnostic}
      (hevents : Diagnostic.ofRun (Console.run input) = [d, d'])
      (hd : LevelName.debug.number ≤ d.level) (hd' : LevelName.debug.number ≤ d'.level) :
      ∃ first second, (eventRecord s d).lineAs .text = .ok first ∧
        (eventRecord s d').lineAs .text = .ok second ∧
        (step s (.run input)).2.written = [⟨0, first ++ "\n"⟩, ⟨0, second ++ "\n"⟩] := by
    obtain ⟨-, -, hall, -⟩ := trace_of_run [] hclock
      [.configureUnchecked [("log_level", .string "DEBUG")]] input
    obtain ⟨lines, hlines, hwritten⟩ := hall (installation input)
    have hfloor : (installation input).floor = LevelName.debug.number := rfl
    have hshown : [d, d'].filter (fun d => (installation input).floor ≤ d.level) = [d, d'] := by
      simp [hfloor, hd, hd']
    rw [hevents, hshown] at hlines
    obtain ⟨first, rest, hfirst, hrest, rfl⟩ := List.forall₂_cons_left_iff.mp hlines
    obtain ⟨second, rest', hsecond, hrest', rfl⟩ := List.forall₂_cons_left_iff.mp hrest
    cases hrest'
    exact ⟨first, second, hfirst, hsecond, hwritten⟩
  refine ⟨htwo (by decide +kernel) (Int.le_refl _) (by decide), ?_⟩
  have hvalue : (Console.run "1 -3 2".toList).value.map Evaluation.rootCount = some .two := by
    decide +kernel
  have hrejected : (Console.run "1 -3 2".toList).rejected = [] := by decide +kernel
  obtain ⟨e, he, hcount⟩ := Option.map_eq_some_iff.mp hvalue
  have hevents : Diagnostic.ofRun (Console.run "1 -3 2".toList) = [.computed e, .finished e] := by
    rw [Diagnostic.ofRun, hrejected, he]
    rfl
  have hinfo : LevelName.debug.number ≤ LevelName.info.number := by decide
  obtain ⟨first, second, hlines⟩ := htwo hevents (Int.le_refl _) hinfo
  exact ⟨e, first, second, he, hcount, hlines⟩

end Session

end Quadratic
