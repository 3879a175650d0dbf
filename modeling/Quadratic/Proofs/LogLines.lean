/-
Quadratic.Proofs.LogLines — nothing that comes from outside can forge a
line of the log.

Text from outside gets into a message in three ways: as a token that is
refused, as a severity, and as a line form that do not exist. Each of them
is quoted on its way, so the message is printable, and with it the line, in
both forms. A line end is not printable. What a run writes to the error
stream therefore falls into lines in one way only, and they are those of the
records that were written.

* `Log.Diagnostic.printable_message` — the messages of all events.
* `Log.Entry.printable_lineAs` — a line is printable if its record is.
* `splitOn_flatMap_lines` — printable lines, each with its end, are found
  again when the text is cut at line ends.
* `lines_of_run` — all of it, for a run after any history of a session.
-/
import Quadratic.Proofs.PrintableText
import Quadratic.Proofs.Trace

namespace Quadratic

open Text (Printable isPrintable)
open Text.Printable (string_append_iff)

/-! ## 1. Messages -/

namespace Settings

theorem Fault.printable_message (f : Fault) : Printable f.message.toList := by
  cases f with
  | notAString => decide
  | unknownLevel s => exact string_append_iff.mpr ⟨by decide, Text.printable_quoted s⟩
  | unknownFormat s => exact string_append_iff.mpr ⟨by decide, Text.printable_quoted s⟩

theorem Problem.printable_text (p : Problem) : Printable p.text.toList := by
  have hname : Printable p.field.name.toList := by cases p.field <;> decide
  simp only [Problem.text, string_append_iff]
  exact ⟨⟨hname, by decide⟩, p.fault.printable_message⟩

theorem printable_problemsText (ps : List Problem) : Printable (problemsText ps).toList := by
  rw [problemsText, String.toList_intercalate, List.map_map]
  refine .intercalate (by decide) fun cs hcs => ?_
  obtain ⟨p, -, rfl⟩ := List.mem_map.mp hcs
  exact p.printable_text

end Settings

theorem Console.TokenError.printable_message (e : Console.TokenError) :
    Printable e.message.toList := by
  cases e with
  | notDecimal t => exact string_append_iff.mpr ⟨by decide, Text.printable_quoted t⟩
  | outOfRange t => exact string_append_iff.mpr ⟨by decide, Text.printable_quoted t⟩

theorem RootCount.printable_name (r : RootCount) : Printable r.name.toList := by
  cases r <;> decide

theorem Evaluation.printable_details (e : Evaluation) : Printable e.details.toList := by
  unfold Evaluation.details Coefficients.equation
  simp only [string_append_iff, and_assoc]
  exact ⟨by decide, Style.printable_report _, by decide, Style.printable_report _, by decide,
    Style.printable_report _, by decide, Style.printable_report _, by decide,
    e.rootCount.printable_name⟩

namespace Log

open Value (InJson)

namespace Diagnostic

theorem printable_computedMessage (e : Evaluation) : Printable (computedMessage e).toList := by
  unfold computedMessage
  simp only [string_append_iff, and_assoc]
  exact ⟨by decide, Style.printable_diagnostic _, by decide, Style.printable_diagnostic _,
    by decide, Style.printable_diagnostic _, by decide, Style.printable_diagnostic _, by decide,
    e.rootCount.printable_name⟩

/-- The message of every event is printable, whatever it quotes. -/
theorem printable_message (d : Diagnostic) : Printable d.message.toList := by
  cases d with
  | settingsInvalid ps =>
    exact string_append_iff.mpr ⟨by decide, Settings.printable_problemsText ps⟩
  | tokenRejected e => exact string_append_iff.mpr ⟨by decide, e.printable_message⟩
  | computed e => exact printable_computedMessage e
  | finished e => exact string_append_iff.mpr ⟨by decide, e.printable_details⟩
  | aborted => decide

/-- So is the place that an event comes from. -/
theorem printable_origin (d : Diagnostic) :
    Printable d.logger.toList ∧ Printable d.origin.module.toList ∧
      Printable d.origin.function.toList := by
  cases d <;> (dsimp only [logger, origin]; decide)

end Diagnostic

/-! ## 2. Lines -/

theorem printable_twoDigits (n : Nat) : Printable (twoDigits n).toList := by
  rw [twoDigits, String.toList_ofList]
  exact Decimal.printable_padded 2 (Decimal.printable_toDigits n)

/-- A point in time that has a text is a day and a time of day. -/
theorem exists_of_secondText {v : Value} {stamp : String} (h : secondText v = .ok stamp) :
    ∃ seconds, ∃ day : Day, stamp =
      toString day.year ++ "-" ++ twoDigits day.month ++ "-" ++ twoDigits day.day ++ " " ++
        timeOfDay seconds := by
  unfold secondText at h
  cases hseconds : secondsOf v with
  | error e =>
    rw [hseconds] at h
    cases h
  | ok seconds =>
    cases hday : dayOf seconds with
    | error e =>
      simp only [hseconds, hday, bind, Except.bind] at h
      cases h
    | ok day =>
      simp only [hseconds, hday, bind, Except.bind] at h
      cases h
      exact ⟨seconds, day, rfl⟩

theorem printable_secondText {v : Value} {stamp : String} (h : secondText v = .ok stamp) :
    Printable stamp.toList := by
  obtain ⟨seconds, day, rfl⟩ := exists_of_secondText h
  simp only [timeOfDay, string_append_iff, and_assoc]
  exact ⟨printable_toString _, by decide, printable_twoDigits _, by decide, printable_twoDigits _,
    by decide, printable_twoDigits _, by decide, printable_twoDigits _, by decide,
    printable_twoDigits _⟩

theorem printable_levelText (n : Int) : Printable (levelText n).toList := by
  unfold levelText
  repeat' split
  all_goals first
    | decide
    | exact string_append_iff.mpr ⟨by decide, printable_toString n⟩

namespace Entry

/-- An entry that is printable apart from its message: it has no exception,
whose trace would take several lines. -/
structure IsPrintable (e : Entry) : Prop where
  logger : Printable e.logger.toList
  module : Printable e.module.toList
  function : ∀ f, e.function = some f → Printable f.toList
  exception : e.exception = none

/-- A record with a line has a time that can be shown. -/
theorem exists_stamp {e : Entry} {message : String} (h : e.record.message = .ok message)
    {form : LineFormat} {line : String} (hline : e.record.lineAs form = .ok line) :
    ∃ stamp, e.record.stamp .second = .ok stamp ∧ Printable stamp.toList := by
  cases hsecond : secondText (.int e.time.seconds) with
  | ok stamp => exact ⟨stamp, e.stamp_record hsecond, printable_secondText hsecond⟩
  | error error =>
    have hcreated : e.record.stamp .second = (secondText (.int e.time.seconds)).mapError .time :=
      rfl
    rw [hsecond] at hcreated
    have hmembers : e.record.members .second = .error (.time error) := by
      simp only [Record.members, Record.baseMembers, hcreated, Except.mapError, bind, Except.bind]
    cases form with
    | text =>
      simp only [Record.lineAs, Record.textLine, h, hcreated, Except.mapError, bind,
        Except.bind] at hline
      cases hline
    | json =>
      rw [Record.lineAs, Record.jsonLine, Record.toJson, hmembers] at hline
      cases hline

theorem printable_of_string {levels : Value → Nat} {room : Nat} {s : String} {j : Json}
    (h : InJson levels room (.string s) j) (hs : Printable s.toList) : Printable j.chars := by
  rw [h.eq_string, Json.chars]
  exact Json.printable_stringChars hs

variable {e : Entry} (he : e.IsPrintable) {stamp message : String}
  (hstamp : Printable stamp.toList) (hmessage : Printable message.toList)

include he hstamp hmessage

/-- What stands for a printable entry is printable, member by member. -/
theorem printable_of_rowInJson {js : List (String × Json)}
    (hrow : RowInJson e.stack (e.dictionary stamp message) js) :
    ∀ n ∈ js, Json.PrintableMember n := by
  have hfunction {levels : Value → Nat} {room : Nat} {j : Json}
      (h : InJson levels room ((e.function.map Value.string).getD .none) j) :
      Printable j.chars := by
    cases hfunction : e.function with
    | none =>
      rw [hfunction, Option.map_none, Option.getD_none] at h
      cases h with
      | none =>
        rw [Json.chars]
        decide
      | object hv => cases hv
    | some f =>
      rw [hfunction, Option.map_some, Option.getD_some] at h
      exact printable_of_string h (he.function f hfunction)
  have hline {levels : Value → Nat} {room : Nat} {j : Json}
      (h : InJson levels room (.int e.line) j) : Printable j.chars := by
    cases h with
    | int =>
      rw [Json.chars]
      exact Decimal.printable_intChars e.line
    | object hv => cases hv
  rw [dictionary, he.exception, List.append_nil] at hrow
  intro n hn
  obtain ⟨m, hm, hname, hform⟩ := RowInJson.exists_of_mem hrow hn
  have hlevel := printable_levelText e.level
  have hlogger := he.logger
  have hmodule := he.module
  rw [Json.PrintableMember, hname]
  simp only [List.mem_cons, List.not_mem_nil, or_false] at hm
  rcases hm with rfl | rfl | rfl | rfl | rfl | rfl | rfl <;> dsimp only
  · exact ⟨by decide, printable_of_string hform hstamp⟩
  · exact ⟨by decide, printable_of_string hform hlevel⟩
  · exact ⟨by decide, printable_of_string hform hlogger⟩
  · exact ⟨by decide, printable_of_string hform hmodule⟩
  · exact ⟨by decide, hfunction hform⟩
  · exact ⟨by decide, hline hform⟩
  · exact ⟨by decide, printable_of_string hform hmessage⟩

omit hstamp

/-- The line of a record is printable in both forms. -/
theorem printable_lineAs (h : e.record.message = .ok message) {form : LineFormat} {line : String}
    (hline : e.record.lineAs form = .ok line) : Printable line.toList := by
  obtain ⟨stamp, hsecond, hstamp⟩ := exists_stamp h hline
  cases form with
  | text =>
    obtain rfl := Except.ok.inj (hline.symm.trans (e.textLine_record h hsecond))
    simp only [string_append_iff, and_assoc]
    exact ⟨hstamp, by decide, he.logger, by decide, printable_levelText e.level, by decide,
      hmessage⟩
  | json =>
    have hnone : Added [] := List.forall_mem_nil _
    have hmembers := e.members_extend hnone h hsecond
    obtain ⟨js, hjs, rfl⟩ := (jsonLine_eq_ok_iff hmembers line).mp hline
    rw [Json.text, String.toList_ofList]
    exact Json.printable_object (printable_of_rowInJson he hstamp hmessage hjs)

end Entry

end Log

namespace Session

open Log (Diagnostic LineFormat Time)

/-! ## 3. What is written -/

/-- The text that emissions add up to. -/
def textOf (es : List Emission) : List Char := es.flatMap fun e => e.text.toList

/-- The line of an event is printable, in every state. -/
theorem printable_eventLine {s : State} {d : Diagnostic} {form : LineFormat} {line : String}
    (h : (eventRecord s d).lineAs form = .ok line) : Printable line.toList := by
  obtain ⟨hlogger, hmodule, hfunction⟩ := d.printable_origin
  refine Log.Entry.printable_lineAs ⟨hlogger, hmodule, ?_, rfl⟩ d.printable_message
    (message_eventRecord s d) h
  rintro f ⟨⟩
  exact hfunction

/-- Lines without a line end, each with one behind it, are found again when
the text is cut at line ends. -/
theorem splitOn_flatMap_lines {lines : List (List Char)} (h : ∀ l ∈ lines, '\n' ∉ l) :
    (lines.flatMap fun l => l ++ ['\n']).splitOn '\n' = lines ++ [[]] := by
  induction lines with
  | nil => exact List.splitOn_nil '\n'
  | cons l lines ih =>
    obtain ⟨hl, hlines⟩ := List.forall_mem_cons.mp h
    have hnone : ∀ c ∈ l, (c == '\n') = false := by
      intro c hc
      rw [beq_eq_false_iff_ne]
      rintro rfl
      exact hl hc
    have hfirst := List.splitOnP_append_cons_of_forall_mem hnone '\n' rfl
      (lines.flatMap fun l => l ++ ['\n'])
    rw [List.flatMap_cons, List.append_assoc, List.singleton_append, List.splitOn, hfirst]
    exact congrArg (l :: ·) (ih hlines)

/-- The text of printable lines, and where it is cut. -/
theorem splitOn_textOf {stream : Nat} {lines : List String}
    (h : ∀ line ∈ lines, Printable line.toList) :
    (textOf (lines.map fun line => ⟨stream, line ++ "\n"⟩)).splitOn '\n' =
      lines.map String.toList ++ [[]] := by
  have htext : textOf (lines.map fun line => ⟨stream, line ++ "\n"⟩) =
      (lines.map String.toList).flatMap fun l => l ++ ['\n'] := by
    rw [textOf, List.flatMap_map, List.flatMap_map]
    exact List.flatMap_congr fun line _ => String.toList_append
  rw [htext]
  refine splitOn_flatMap_lines fun l hl hnewline => ?_
  obtain ⟨line, hline, rfl⟩ := List.mem_map.mp hl
  exact Bool.false_ne_true (h line hline '\n' hnewline)

theorem printable_of_forall₂ {s : State} {form : LineFormat} {ds : List Diagnostic}
    {lines : List String}
    (h : List.Forall₂ (fun d line => (eventRecord s d).lineAs form = .ok line) ds lines) :
    ∀ line ∈ lines, Printable line.toList := by
  induction h with
  | nil => exact List.forall_mem_nil _
  | cons hline _ ih => exact List.forall_mem_cons.mpr ⟨printable_eventLine hline, ih⟩

/-- A run after any history of a session, with any environment and any
input. What it writes goes to one stream, and it is one line for each of its
records that are severe enough, and nothing else: the characters of the
lines are printable, and where the text is cut at line ends these lines are
found, with nothing behind the last one. -/
theorem lines_of_run (environment : Settings.Environment) {clock : Time} (hclock : clock.IsShown)
    (history : List Step) (input : List Char) :
    let start := State.initial environment clock
    let s := after start history
    let written := (step s (.run input)).2.written
    Nonempty (Installation start (history ++ [.run input])) ∧
    ∀ i : Installation start (history ++ [.run input]), ∃ lines : List String,
      List.Forall₂ (fun d line => (eventRecord s d).lineAs i.settings.lineFormat = .ok line)
        (warningOf s ++ (Diagnostic.ofRun (Console.run input)).filter fun d => i.floor ≤ d.level)
        lines ∧
      written = (lines.map fun line => ⟨i.stream, line ++ "\n"⟩) ∧
      (∀ line ∈ lines, ∀ c ∈ line.toList, isPrintable c = true) ∧
      (textOf written).splitOn '\n' = lines.map String.toList ++ [[]] := by
  intro start s written
  have hstart : start.logger = .initial := rfl
  constructor
  · obtain ⟨⟨s', warnings⟩, hrun⟩ := configureForRun_ok s
    refine exists_installation hstart ?_
    rw [after_concat, step, State.run, hrun]
    exact (configured_configureForRun hrun).configured
  · intro i
    obtain ⟨lines, hlines, hwritten⟩ := exists_lines_of_run environment hclock i
    have hprintable := printable_of_forall₂ hlines
    have hwritten' : written = _ := hwritten
    refine ⟨lines, hlines, hwritten', hprintable, ?_⟩
    rw [hwritten']
    exact splitOn_textOf hprintable

/-- A severity with a line end in it, behind which another line seems to
begin. -/
def forgedLevel : String := "X\n1970-01-01 00:00:00 - src - ERROR - Y"

def forgedEnvironment : Settings.Environment := [("DISCRIMINANT_LOG_LEVEL", forgedLevel)]

/-- What is wrong with that severity. -/
def forgedProblems : List Settings.Problem := [⟨.logLevel, .unknownLevel forgedLevel⟩]

/-- The token turns the direction of writing around. The warning and the end
of the run are two lines. -/
theorem lines_of_run_forged :
    let s := State.initial forgedEnvironment ⟨0, 0⟩
    ∃ first second : String,
      (eventRecord s (.settingsInvalid forgedProblems)).lineAs .text = .ok first ∧
      (eventRecord s .aborted).lineAs .text = .ok second ∧
      (textOf (step s (.run "\u202e".toList)).2.written).splitOn '\n' =
        [first.toList, second.toList, []] := by
  have hclock : Time.IsShown ⟨0, 0⟩ := ⟨_, rfl⟩
  have hsettings : (State.initial forgedEnvironment ⟨0, 0⟩).settings = .error forgedProblems := by
    decide +kernel
  have hwarning : warningOf (State.initial forgedEnvironment ⟨0, 0⟩) =
      [.settingsInvalid forgedProblems] := by
    rw [warningOf, hsettings]
    rfl
  have hevents : Diagnostic.ofRun (Console.run "\u202e".toList) =
      [.tokenRejected (.notDecimal "\u202e"), .aborted] := by decide +kernel
  let installation : Installation (State.initial forgedEnvironment ⟨0, 0⟩)
      ([] ++ [.run "\u202e".toList]) :=
    { before := []
      step := .run "\u202e".toList
      since := []
      settings := Settings.standard.toUnchecked
      threshold := .number 30
      history_eq := rfl
      takesEffect := ⟨rfl, by rw [settingsFor, after, List.foldl_nil, hsettings], rfl⟩
      not_reset := List.forall_mem_nil _ }
  obtain ⟨-, hall⟩ := lines_of_run forgedEnvironment hclock [] "\u202e".toList
  obtain ⟨lines, hlines, -, -, hsplit⟩ := hall installation
  rw [after, List.foldl_nil] at hlines hsplit
  rw [hevents, hwarning] at hlines
  obtain ⟨first, rest, hfirst, hrest, rfl⟩ := List.forall₂_cons_left_iff.mp hlines
  obtain ⟨second, rest', hsecond, hrest', rfl⟩ := List.forall₂_cons_left_iff.mp hrest
  cases hrest'
  exact ⟨first, second, hfirst, hsecond, hsplit⟩

end Session

end Quadratic
