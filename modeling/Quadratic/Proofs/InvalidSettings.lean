/-
Quadratic.Proofs.InvalidSettings — settings that are invalid are warned of
once, and nothing of them has an effect.

A run warns in one kind of state only: the logger is not configured, no
settings are remembered, and those of the environment are invalid. The
warning is then the first line that the run writes, and it names one problem
for each variable that is at fault. What the run leaves behind is what the
standard settings leave behind. Since its logger is configured by then, no
later run warns again before a reset.

That there is no warning is said of the lines that are on the screen. Each of
them shows a severity, as a word or as a member (`severityIn?`), and for a
line of the log that is the severity of its record. No other record of a run
is a warning.

* `ofEnvironment_eq_error_iff` — the problems of an environment, variable by
  variable.
* `severityIn?_eventLine` — what a line shows of its record.
* `warningOf_eq_nil` — no other state begins with a warning.
* `invalid_settings_warn_once` — all of it, after any history of a session.
-/
import Quadratic.Proofs.FirstConfiguration
import Quadratic.Proofs.LineMembers
import Quadratic.Proofs.LogLines

namespace Quadratic

/-! ## 1. The problems of an environment -/

namespace Settings

/-- The text of the variable for a field. Of several variables that are
compared as equal the last one counts. -/
def variableText? (env : Environment) (f : Field) : Option String :=
  (env.reverse.find? fun m => fold m.1 = fold ("DISCRIMINANT_" ++ f.name)).map (·.2)

/-- What is wrong with the text for a field. Any text will do for a name. -/
def faultOf? (text : String) : Field → Option Fault
  | .appName => none
  | .logLevel => if levelOf? text = none then some (.unknownLevel text) else none
  | .logFormat => if formatOf? text = none then some (.unknownFormat text) else none

/-- The problem of a field, if its variable is set and at fault. -/
def problemIn? (env : Environment) (f : Field) : Option Problem :=
  ((variableText? env f).bind (faultOf? · f)).map fun fault => ⟨f, fault⟩

/-- The problems of an environment: one for each variable at fault, the
severity before the line form. -/
def problemsIn (env : Environment) : List Problem :=
  [Field.logLevel, Field.logFormat].filterMap (problemIn? env)

theorem value?_standard (env : Environment) (f : Field) :
    env.value? Lookup.standard f.name = (variableText? env f).map Value.string := by
  have hmatches : (fun m : String × String =>
      decide (¬ (Lookup.standard.skipEmpty ∧ m.2 = "") ∧
        Lookup.standard.key m.1 = Lookup.standard.key (Lookup.standard.start ++ f.name))) =
      fun m => decide (fold m.1 = fold ("DISCRIMINANT_" ++ f.name)) := by
    funext m
    exact decide_eq_decide.mpr (and_iff_right fun h => Bool.false_ne_true h.1)
  rw [Environment.value?, hmatches, variableText?, Option.map_map]
  rfl

theorem given?_ofEnvironment (env : Environment) (f : Field) :
    (Sources.ofEnvironment env).given? f = (variableText? env f).map Value.string :=
  Option.or_none.trans (value?_standard env f)

/-- All that is wrong with what sources give to the three fields. -/
def Sources.problems (s : Sources) : List Problem :=
  problemOf (checked stringOf standard.appName .appName (s.given? .appName)) ++
    problemOf (checked levelOf standard.logLevel .logLevel (s.given? .logLevel)) ++
    problemOf (checked formatOf standard.logFormat .logFormat (s.given? .logFormat))

theorem evaluate_eq_error_iff (s : Sources) (ps : List Problem) :
    evaluate s = .error ps ↔ ps = s.problems ∧ s.problems ≠ [] := by
  unfold evaluate Sources.problems
  cases checked stringOf standard.appName .appName (s.given? .appName) <;>
    cases checked levelOf standard.logLevel .logLevel (s.given? .logLevel) <;>
    cases checked formatOf standard.logFormat .logFormat (s.given? .logFormat) <;>
    simp [problemOf, eq_comm (b := ps)]

/-- Of a field that is given as a text, what is wrong with the text. -/
theorem problemOf_checked {α : Type} {read : Value → Except Fault α} (default : α) {f : Field}
    (hread : ∀ text e, read (.string text) = .error e ↔ faultOf? text f = some e)
    (env : Environment) :
    problemOf (checked read default f ((variableText? env f).map Value.string)) =
      (problemIn? env f).toList := by
  rw [problemIn?]
  cases variableText? env f with
  | none => rfl
  | some text =>
    rw [Option.map_some, Option.bind_some, checked]
    cases hvalue : read (.string text) with
    | error e =>
      rw [(hread text e).mp hvalue]
      rfl
    | ok a =>
      have hnone : faultOf? text f = none := by
        rw [Option.eq_none_iff_forall_ne_some]
        intro e he
        rw [(hread text e).mpr he] at hvalue
        cases hvalue
      rw [hnone]
      rfl

theorem stringOf_eq_error_iff (text : String) (e : Fault) :
    stringOf (.string text) = .error e ↔ faultOf? text .appName = some e := by
  simp [stringOf, Value.text?, faultOf?]

theorem levelOf_eq_error_iff (text : String) (e : Fault) :
    levelOf (.string text) = .error e ↔ faultOf? text .logLevel = some e := by
  have hstring : stringOf (.string text) = .ok text := rfl
  simp only [levelOf, hstring, faultOf?, bind, Except.bind]
  cases levelOf? text <;> simp

theorem formatOf_eq_error_iff (text : String) (e : Fault) :
    formatOf (.string text) = .error e ↔ faultOf? text .logFormat = some e := by
  have hstring : stringOf (.string text) = .ok text := rfl
  simp only [formatOf, hstring, faultOf?, bind, Except.bind]
  cases formatOf? text <;> simp

/-- The settings of an environment are invalid if a variable is at fault,
and then they are refused with the problems of the variables. -/
theorem ofEnvironment_eq_error_iff (env : Environment) (ps : List Problem) :
    ofEnvironment env = .error ps ↔ ps = problemsIn env ∧ problemsIn env ≠ [] := by
  have hname : problemIn? env .appName = none := by
    rw [problemIn?]
    cases variableText? env .appName <;> rfl
  have hproblems : (Sources.ofEnvironment env).problems = problemsIn env := by
    rw [Sources.problems, given?_ofEnvironment, given?_ofEnvironment, given?_ofEnvironment,
      problemOf_checked _ stringOf_eq_error_iff, problemOf_checked _ levelOf_eq_error_iff,
      problemOf_checked _ formatOf_eq_error_iff, hname, problemsIn, List.filterMap_cons,
      List.filterMap_cons, List.filterMap_nil]
    cases problemIn? env .logLevel <;> cases problemIn? env .logFormat <;> rfl
  rw [ofEnvironment, evaluate_eq_error_iff, hproblems]

end Settings

/-! ## 2. The severity that a line shows -/

namespace Log

/-- The severity that a line of the log shows. What begins with a brace is a
JSON object and has a member for it. In any other line it is the sixth word:
date, time and logger stand before it, with dashes in between. -/
def severityIn? (line : String) : Option String :=
  if line.toList.head? = some '\x7b' then
    match Json.ofText? line with
    | some (.object members) =>
        match Value.lookup? "level" members with
        | some (.string severity) => some severity
        | _ => none
    | _ => none
  else (Text.tokens line.toList)[5]?

/-- A word of a date or of a time of day. -/
def IsStampWord (s : String) : Prop :=
  s.toList ≠ [] ∧ ∀ c ∈ s.toList, c.isDigit = true ∨ c = '-' ∨ c = ':'

instance (s : String) : Decidable (IsStampWord s) :=
  inferInstanceAs (Decidable (_ ∧ _))

theorem IsStampWord.append {s t : String} (hs : IsStampWord s) (ht : IsStampWord t) :
    IsStampWord (s ++ t) := by
  rw [IsStampWord, String.toList_append]
  refine ⟨List.append_ne_nil_of_left_ne_nil hs.1 _, fun c hc => ?_⟩
  exact (List.mem_append.mp hc).elim (hs.2 c) (ht.2 c)

theorem isStampWord_toString (i : Int) : IsStampWord (toString i) := by
  have hdigits := Decimal.allDigits_toDigits i.natAbs
  rw [IsStampWord, Decimal.toList_toString, Decimal.intChars]
  split
  · refine ⟨List.cons_ne_nil _ _, List.forall_mem_cons.mpr ⟨.inr (.inl rfl), fun c hc => ?_⟩⟩
    exact .inl (hdigits c hc)
  · exact ⟨Nat.toDigits_ne_nil, fun c hc => .inl (hdigits c hc)⟩

theorem isStampWord_twoDigits (n : Nat) : IsStampWord (twoDigits n) := by
  rw [IsStampWord, twoDigits, String.toList_ofList, Decimal.padded]
  refine ⟨List.append_ne_nil_of_right_ne_nil _ Nat.toDigits_ne_nil, fun c hc => .inl ?_⟩
  exact (Decimal.allDigits_zeroChars _).append (Decimal.allDigits_toDigits n) c hc

/-- A point in time is shown in two words. -/
theorem exists_stampWords {v : Value} {stamp : String} (h : secondText v = .ok stamp) :
    ∃ date time, stamp = date ++ " " ++ time ∧ IsStampWord date ∧ IsStampWord time := by
  obtain ⟨seconds, day, rfl⟩ := exists_of_secondText h
  have hdash : IsStampWord "-" := by decide
  have hcolon : IsStampWord ":" := by decide
  refine ⟨_, _, rfl, ?_, ?_⟩
  · exact ((((isStampWord_toString _).append hdash).append (isStampWord_twoDigits _)).append
      hdash).append (isStampWord_twoDigits _)
  · exact ((((isStampWord_twoDigits _).append hcolon).append (isStampWord_twoDigits _)).append
      hcolon).append (isStampWord_twoDigits _)

/-- A word, as it stands in a line of text. -/
def IsWord (s : String) : Prop := s.toList ≠ [] ∧ ∀ c ∈ s.toList, Text.isSpace c = false

instance (s : String) : Decidable (IsWord s) :=
  inferInstanceAs (Decidable (_ ∧ _))

theorem IsStampWord.isWord {s : String} (hs : IsStampWord s) : IsWord s := by
  refine ⟨hs.1, fun c hc => ?_⟩
  rcases hs.2 c hc with hdigit | rfl | rfl
  · exact Decimal.isSpace_of_isDigit hdigit
  · rfl
  · rfl

/-- A word with a space behind it is the first of the tokens. -/
theorem tokens_word_append {s : String} (hs : IsWord s) (rest : List Char) :
    Text.tokens (s.toList ++ (" ".toList ++ rest)) = s :: Text.tokens rest := by
  have hspace : ∀ c ∈ " ".toList, Text.isSpace c = true := by decide
  rw [Text.tokens, Text.runsFrom_word_append hs.1 hs.2 (by decide) hspace, List.map_cons,
    String.ofList_toList]
  rfl

/-- The severity of a line of text. -/
theorem severityIn?_text {v : Value} {stamp logger severity : String}
    (hstamp : secondText v = .ok stamp) (hlogger : IsWord logger) (hseverity : IsWord severity)
    (message : String) :
    severityIn? (stamp ++ " - " ++ logger ++ " - " ++ severity ++ " - " ++ message) =
      some severity := by
  obtain ⟨date, time, rfl, hdate, htime⟩ := exists_stampWords hstamp
  have hdash : IsWord "-" := by decide
  have hgap : " - ".toList = " ".toList ++ ("-".toList ++ " ".toList) := rfl
  have hshape : (date ++ " " ++ time ++ " - " ++ logger ++ " - " ++ severity ++ " - " ++
      message).toList =
        date.toList ++ (" ".toList ++ (time.toList ++ (" ".toList ++ ("-".toList ++ (" ".toList ++
          (logger.toList ++ (" ".toList ++ ("-".toList ++ (" ".toList ++ (severity.toList ++
            (" ".toList ++ ("-".toList ++ (" ".toList ++ message.toList))))))))))))) := by
    simp only [String.toList_append, hgap, List.append_assoc]
  obtain ⟨c, cs, hcons⟩ := List.exists_cons_of_ne_nil hdate.1
  have hbrace : c ≠ '\x7b' := by
    rintro rfl
    have hclass := hdate.2 '\x7b' (hcons ▸ List.mem_cons_self ..)
    revert hclass
    decide
  rw [severityIn?, hshape, if_neg, tokens_word_append hdate.isWord, tokens_word_append htime.isWord,
    tokens_word_append hdash, tokens_word_append hlogger, tokens_word_append hdash,
    tokens_word_append hseverity]
  · rfl
  · rw [hcons, List.cons_append, List.head?_cons, Option.some_inj]
    exact hbrace

/-- The severity of a line that is a JSON object. -/
theorem severityIn?_object {members : List (String × Json)} {severity : String}
    (h : Value.lookup? "level" members = some (.string severity)) :
    severityIn? (Json.object members).text = some severity := by
  have hbrace : (Json.object members).text.toList.head? = some '\x7b' := by
    rw [Json.text, String.toList_ofList]
    cases members <;> rfl
  rw [severityIn?, if_pos hbrace, Json.ofText?_text]
  simp only [h]

end Log

namespace Session

open Log (Diagnostic LineFormat Time IsWord secondText levelText severityIn?)

/-! ## 3. The lines of events -/

section

variable {s : State} {stamp : String} (hstamp : secondText (.int s.clock.seconds) = .ok stamp)
  (d : Diagnostic)

include hstamp

/-- The line of an event, as text. -/
theorem textLine_eventRecord :
    (eventRecord s d).lineAs .text =
      .ok (stamp ++ " - " ++ d.logger ++ " - " ++ levelText d.level ++ " - " ++ d.message) :=
  Log.Entry.textLine_record _ (message_eventRecord s d) (Log.Entry.stamp_record _ hstamp)

/-- The line of an event as a JSON object has the severity of the event. -/
theorem jsonLine_eventRecord {line : String} (hline : (eventRecord s d).lineAs .json = .ok line) :
    ∃ members, line = (Json.object members).text ∧
      Value.lookup? "level" members = some (.string (levelText d.level)) := by
  have hnone : Log.Entry.Added [] := List.forall_mem_nil _
  have hmembers := Log.Entry.members_extend _ hnone (message_eventRecord s d)
    (Log.Entry.stamp_record _ hstamp)
  obtain ⟨js, hjs, rfl⟩ := (Log.jsonLine_eq_ok_iff hmembers line).mp hline
  have hshows : Log.Shows d.origin.stack js "level" (.string (levelText d.level)) :=
    Log.RowInJson.shows hjs rfl
  obtain ⟨j, hlevel, hform⟩ := hshows
  exact ⟨js, rfl, hform.eq_string ▸ hlevel⟩

/-- A line of the log shows the severity of its event, in both forms. -/
theorem severityIn?_eventLine {form : LineFormat} {line : String}
    (hline : (eventRecord s d).lineAs form = .ok line) :
    severityIn? line = some (levelText d.level) := by
  cases form with
  | text =>
    have hlogger : IsWord d.logger := by cases d <;> (dsimp only [Diagnostic.logger]; decide)
    have hlevel : IsWord (levelText d.level) := by
      cases d <;> (dsimp only [Diagnostic.level]; decide)
    obtain rfl := Except.ok.inj (hline.symm.trans (textLine_eventRecord hstamp d))
    exact Log.severityIn?_text hstamp hlogger hlevel d.message
  | json =>
    obtain ⟨members, rfl, hlevel⟩ := jsonLine_eventRecord hstamp d hline
    exact Log.severityIn?_object hlevel

end

/-- None of the events of a run has the severity of a warning. -/
theorem levelText_ne_warning {r : Console.Reading Evaluation} {d : Diagnostic}
    (hd : d ∈ Diagnostic.ofRun r) : levelText d.level ≠ "WARNING" := by
  have hevent : ∀ ps, d ≠ .settingsInvalid ps := by
    rintro ps rfl
    rw [Diagnostic.ofRun, List.mem_append] at hd
    rcases hd with hd | hd
    · obtain ⟨e, -, he⟩ := List.mem_map.mp hd
      cases he
    · split at hd <;> simp at hd
  cases d with
  | settingsInvalid ps => exact absurd rfl (hevent ps)
  | tokenRejected e | computed e | finished e | aborted =>
    dsimp only [Diagnostic.level]
    decide

/-! ## 4. States that a run warns in -/

/-- A run that begins in this state has no settings: the logger is not
configured, none are remembered, and those of the environment are
invalid. -/
structure FallsBack (s : State) : Prop where
  unconfigured : s.logger.configured = false
  forgotten : s.remembered = none
  invalid : ∃ ps, Settings.ofEnvironment s.environment = .error ps

theorem FallsBack.settings_eq {s : State} (h : FallsBack s) :
    s.settings = .error (Settings.problemsIn s.environment) := by
  obtain ⟨ps, hps⟩ := h.invalid
  obtain ⟨rfl, -⟩ := (Settings.ofEnvironment_eq_error_iff s.environment ps).mp hps
  exact (settings_eq_error_iff s _).mpr ⟨h.forgotten, hps⟩

/-- A run begins with a warning in these states. -/
theorem FallsBack.warningOf_eq {s : State} (h : FallsBack s) :
    warningOf s = [.settingsInvalid (Settings.problemsIn s.environment)] := by
  rw [warningOf, h.unconfigured, if_neg Bool.false_ne_true, h.settings_eq]

/-- In no other state does a run begin with a warning. -/
theorem warningOf_eq_nil {s : State} (h : ¬ FallsBack s) : warningOf s = [] := by
  unfold warningOf
  cases hconfigured : s.logger.configured with
  | true => rfl
  | false =>
    cases hsettings : s.settings with
    | ok r => rfl
    | error ps =>
      obtain ⟨hnone, henv⟩ := (settings_eq_error_iff s ps).mp hsettings
      exact absurd ⟨hconfigured, hnone, ps, henv⟩ h

/-- What a run does to such a state: it installs the standard settings, and
changes nothing else. -/
theorem FallsBack.run_eq {s : State} (h : FallsBack s) (input : List Char) :
    (s.run input).1 =
        { s with logger := s.logger.install ⟨.text, s.errorStream⟩ (.number 30) } ∧
      s.configure Settings.standard.toUnchecked = .ok (s.run input).1 := by
  obtain ⟨⟨s', warnings⟩, hrun⟩ := configureForRun_ok s
  have hs' : (s.run input).1 = s' := by rw [State.run, hrun]
  rw [hs']
  cases runConfiguration hrun with
  | kept hconfigured => exact absurd (h.unconfigured.symm.trans hconfigured) Bool.false_ne_true
  | settings _ hsettings => cases h.settings_eq.symm.trans hsettings
  | standard _ _ hconfigure =>
    refine ⟨?_, hconfigure⟩
    rw [State.configure, h.unconfigured, if_neg Bool.false_ne_true] at hconfigure
    exact (Except.ok.inj hconfigure).symm

/-! ## 5. What is on the screen -/

/-- What was written are these lines, to one stream. All of them are
printable, so that none of them is more than one line. -/
structure WritesLines (written : List Emission) (stream : Nat) (lines : List String) : Prop where
  written_eq : written = lines.map fun line => ⟨stream, line ++ "\n"⟩
  printable : ∀ line ∈ lines, Text.Printable line.toList

/-- What was written are lines, none of which is a warning. -/
def Unwarned (written : List Emission) : Prop :=
  ∃ stream lines, WritesLines written stream lines ∧
    ∀ line ∈ lines, severityIn? line ≠ some "WARNING"

/-- The lines of events that are no warnings. -/
theorem severityIn?_ne_warning {s : State} (hclock : s.clock.IsShown) {form : LineFormat}
    {ds : List Diagnostic} {lines : List String}
    (hlines : List.Forall₂ (fun d line => (eventRecord s d).lineAs form = .ok line) ds lines)
    (hds : ∀ d ∈ ds, levelText d.level ≠ "WARNING") :
    ∀ line ∈ lines, severityIn? line ≠ some "WARNING" := by
  obtain ⟨stamp, hstamp⟩ := hclock
  induction hlines with
  | nil => exact List.forall_mem_nil _
  | @cons d line ds lines hline _ ih =>
    obtain ⟨hd, hds⟩ := List.forall_mem_cons.mp hds
    refine List.forall_mem_cons.mpr ⟨fun hwarning => hd ?_, ih hds⟩
    exact Option.some.inj ((severityIn?_eventLine hstamp d hline).symm.trans hwarning)

/-- A run that does not begin without settings writes no warning. -/
theorem unwarned_run (environment : Settings.Environment) {clock : Time} (hclock : clock.IsShown)
    {history : List Step} (h : ¬ FallsBack (after (.initial environment clock) history))
    (input : List Char) :
    Unwarned (step (after (.initial environment clock) history) (.run input)).2.written := by
  let start := State.initial environment clock
  have hclock' : (after start history).clock.IsShown := by rwa [clock_after]
  have hconfigured : (after start (history ++ [.run input])).logger.configured = true := by
    rw [after_concat]
    exact configured_run _ input
  obtain ⟨i⟩ := exists_installation rfl hconfigured
  obtain ⟨lines, hlines, hwritten⟩ := exists_lines_of_run environment hclock i
  rw [warningOf_eq_nil h, List.nil_append] at hlines
  refine ⟨i.stream, lines, ⟨hwritten, printable_of_forall₂ hlines⟩, ?_⟩
  exact severityIn?_ne_warning hclock' hlines fun d hd =>
    levelText_ne_warning (List.mem_of_mem_filter hd)

/-- The standard settings are what a run without settings installs. -/
theorem FallsBack.takesEffect {s : State} (h : FallsBack s) (input : List Char) :
    TakesEffect s (.run input) Settings.standard.toUnchecked (.number 30) where
  unconfigured := h.unconfigured
  settingsFor_step := by rw [settingsFor, h.settings_eq]
  thresholdOf_level := rfl

/-- The line of the warning, with one problem for each field at fault. -/
def warningLine (stamp : String) (ps : List Settings.Problem) : String :=
  stamp ++ " - src.calculator.app - WARNING - Invalid logging settings, using defaults: " ++
    String.intercalate "; " (ps.map fun p => p.field.name ++ ": " ++ p.fault.message)

theorem textLine_settingsInvalid {s : State} {stamp : String}
    (hstamp : secondText (.int s.clock.seconds) = .ok stamp) (ps : List Settings.Problem) :
    (eventRecord s (.settingsInvalid ps)).lineAs .text = .ok (warningLine stamp ps) := by
  have hplace : " - " ++ ("src.calculator.app" ++ (" - " ++ ("WARNING" ++ (" - " ++
      "Invalid logging settings, using defaults: ")))) =
      " - src.calculator.app - WARNING - Invalid logging settings, using defaults: " := by decide
  have hmessage : (Diagnostic.settingsInvalid ps).message =
      "Invalid logging settings, using defaults: " ++
        String.intercalate "; " (ps.map fun p => p.field.name ++ ": " ++ p.fault.message) := rfl
  rw [textLine_eventRecord hstamp, hmessage, warningLine, ← hplace]
  simp only [String.append_assoc]
  rfl

/-- What a run without settings writes begins with the warning, and no other
line of it is one. -/
theorem FallsBack.writesLines_run (environment : Settings.Environment) {clock : Time}
    {history : List Step} (h : FallsBack (after (.initial environment clock) history))
    {stamp : String} (hstamp : secondText (.int clock.seconds) = .ok stamp) (input : List Char) :
    let s := after (State.initial environment clock) history
    ∃ lines,
      WritesLines (step s (.run input)).2.written s.errorStream
        (warningLine stamp (Settings.problemsIn s.environment) :: lines) ∧
      severityIn? (warningLine stamp (Settings.problemsIn s.environment)) = some "WARNING" ∧
      ∀ line ∈ lines, severityIn? line ≠ some "WARNING" := by
  intro s
  have hclock : s.clock = clock := clock_after _ history
  rw [← hclock] at hstamp
  obtain ⟨lines, hlines, hwritten⟩ := exists_lines_of_run environment (hclock ▸ ⟨stamp, hstamp⟩)
    (Installation.last (h.takesEffect input))
  have hprintable := printable_of_forall₂ hlines
  rw [h.warningOf_eq, List.singleton_append] at hlines
  obtain ⟨warning, rest, hwarning, hrest, rfl⟩ := List.forall₂_cons_left_iff.mp hlines
  obtain rfl := Except.ok.inj (hwarning.symm.trans (textLine_settingsInvalid hstamp _))
  refine ⟨rest, ⟨hwritten, hprintable⟩, severityIn?_eventLine hstamp _ hwarning, ?_⟩
  exact severityIn?_ne_warning ⟨stamp, hstamp⟩ hrest fun d hd =>
    levelText_ne_warning (List.mem_of_mem_filter hd)

/-! ## 6. Once, and only once -/

/-- A run after any history of a session, with any environment and any
input.

If it finds the logger unconfigured, no settings remembered and those of the
environment invalid, then the first line that it writes is a warning, as text
and to the error stream of the process. The warning names one problem for
each variable at fault, and no other line of the run is a warning. The logger
is left with the standard settings, as if these had been given, whatever else
the environment says; nothing is remembered, and nothing else has changed.

If it finds anything else it writes no warning. Nor does any later run, after
whatever other steps, as long as none of them is a reset. -/
theorem invalid_settings_warn_once (environment : Settings.Environment) {clock : Time}
    (hclock : clock.IsShown) (history : List Step) (input : List Char) :
    let s := after (State.initial environment clock) history
    let answer := step s (.run input)
    (FallsBack s →
      (∃ stamp lines, secondText (.int clock.seconds) = .ok stamp ∧
        WritesLines answer.2.written s.errorStream
          (warningLine stamp (Settings.problemsIn s.environment) :: lines) ∧
        severityIn? (warningLine stamp (Settings.problemsIn s.environment)) = some "WARNING" ∧
        ∀ line ∈ lines, severityIn? line ≠ some "WARNING") ∧
      Settings.problemsIn s.environment ≠ [] ∧
      answer.1 = { s with logger := Logger.initial.install ⟨.text, s.errorStream⟩ (.number 30) } ∧
      s.configure Settings.standard.toUnchecked = .ok answer.1 ∧
      answer.1.remembered = none) ∧
    (¬ FallsBack s → Unwarned answer.2.written) ∧
    ∀ since : List Step, (∀ t ∈ since, t ≠ .reset) → ∀ input' : List Char,
      Unwarned (step (after answer.1 since) (.run input')).2.written := by
  intro s answer
  have hstart : (State.initial environment clock).logger = .initial := rfl
  refine ⟨fun h => ⟨?_, ?_, ?_, ?_, ?_⟩, fun h => unwarned_run environment hclock h input,
    fun since hsince input' => ?_⟩
  · obtain ⟨stamp, hstamp⟩ := hclock
    obtain ⟨lines, hlines⟩ := h.writesLines_run environment hstamp input
    exact ⟨stamp, lines, hstamp, hlines⟩
  · obtain ⟨ps, hps⟩ := h.invalid
    exact ((Settings.ofEnvironment_eq_error_iff s.environment ps).mp hps).2
  · have hinitial : s.logger = .initial := (isClean_after hstart history).eq_initial h.unconfigured
    exact hinitial ▸ (h.run_eq input).1
  · exact (h.run_eq input).2
  · have hremembered := congrArg State.remembered (h.run_eq input).1
    exact hremembered.trans h.forgotten
  · have hafter : after answer.1 since =
        after (State.initial environment clock) (history ++ .run input :: since) :=
      (after_append _ history (.run input :: since)).symm
    have hrun : answer.1.logger.configured = true := configured_run s input
    have hconfigured : (after answer.1 since).logger.configured = true := by
      rw [logger_after_of_configured hrun hsince, hrun]
    rw [hafter]
    refine unwarned_run environment hclock (fun h => ?_) input'
    rw [← hafter] at h
    exact Bool.false_ne_true (h.unconfigured.symm.trans hconfigured)

/-- A session in which both variables are at fault. -/
def faultyStart : State :=
  .initial [("DISCRIMINANT_LOG_LEVEL", "LOUD"), ("discriminant_log_format", "xml")] ⟨0, 0⟩

/-- The warning names both problems. The second run finds no settings
either, but it does not say so again. -/
theorem invalid_settings_warn_once_both_faults :
    (∃ lines, WritesLines (step faultyStart (.run "1 0 1".toList)).2.written 0
      (("1970-01-01 00:00:00 - src.calculator.app - WARNING - Invalid logging settings, " ++
        "using defaults: log_level: Value error, Unknown log level: 'LOUD'; log_format: " ++
        "Value error, log_format must be one of ('text', 'json'), got 'xml'") :: lines)) ∧
      Unwarned (step (step faultyStart (.run "1 0 1".toList)).1 (.run "x".toList)).2.written := by
  have hclock : faultyStart.clock.IsShown := ⟨_, rfl⟩
  have hstamp : secondText (.int faultyStart.clock.seconds) = .ok "1970-01-01 00:00:00" := by
    decide +kernel
  have hinvalid : Settings.ofEnvironment faultyStart.environment =
      .error [⟨.logLevel, .unknownLevel "LOUD"⟩, ⟨.logFormat, .unknownFormat "xml"⟩] := by
    decide +kernel
  have hline : warningLine "1970-01-01 00:00:00" (Settings.problemsIn faultyStart.environment) =
      "1970-01-01 00:00:00 - src.calculator.app - WARNING - Invalid logging settings, " ++
        "using defaults: log_level: Value error, Unknown log level: 'LOUD'; log_format: " ++
        "Value error, log_format must be one of ('text', 'json'), got 'xml'" := by
    decide +kernel
  have hstart : after (.initial faultyStart.environment faultyStart.clock) [] = faultyStart := rfl
  have hnil : ∀ s : State, after s [] = s := fun _ => rfl
  obtain ⟨hwarned, -, hlater⟩ :=
    invalid_settings_warn_once faultyStart.environment hclock [] "1 0 1".toList
  have hsecond := hlater [] (List.forall_mem_nil _) "x".toList
  rw [hstart] at hwarned hsecond
  rw [hnil] at hsecond
  obtain ⟨⟨stamp, lines, hstamp', hwritten, -⟩, -⟩ := hwarned ⟨rfl, rfl, _, hinvalid⟩
  obtain rfl := Except.ok.inj (hstamp'.symm.trans hstamp)
  rw [hline] at hwritten
  exact ⟨⟨lines, hwritten⟩, hsecond⟩

end Session

end Quadratic
