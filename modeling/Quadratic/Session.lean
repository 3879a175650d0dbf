/-
Quadratic.Session — the state that outlives a run, and what each step
does to it: the environment, the settings remembered, the logger of the
calculator and those below it, and the error stream of the process.

* The environment is changed variable by variable. The first change that
  is refused ends the step, and those before it stay.
* Settings are evaluated when they are first needed and remembered until
  they are forgotten on purpose. An evaluation that fails is not
  remembered. Every evaluation that succeeds has a number, so that it
  can be told whether two answers are the same settings or equal ones.
* The logger is configured once; a later configuration has no effect
  until the logger is reset. A configuration that fails changes nothing.
  The handler keeps the error stream that was current when it was made.
* A record is written by each handler of the calculator's logger if it
  comes from there or from below and is severe enough. A record that finds
  no handler is written bare to the current error stream, from severity
  WARNING on. A severity without a name ends the step that logs it.

`step` is one function from state to state; what a step shows is data
(`Answer`), and the failures it can end with are causes (`Failure`).
-/
import Quadratic.Console.Run
import Quadratic.Log.Diagnostic
import Quadratic.Session.Hierarchy
import Quadratic.Settings

namespace Quadratic.Session

open Log (LineFormat LevelName Record Entry Diagnostic Origin Time)

/-! ## 1. State -/

/-- Settings that are remembered, with the number of their evaluation. -/
structure Remembered where
  number : Nat
  settings : Settings
deriving DecidableEq

/-- The state between steps. -/
structure State where
  environment : Settings.Environment
  remembered : Option Remembered
  evaluations : Nat
  lastShown : Option Nat
  logger : Logger
  hierarchy : Hierarchy
  errorStream : Nat
  /-- The time that all records show. It is assumed that local time is
  Universal Time, and that the clock stands still while a session lasts. -/
  clock : Time
deriving DecidableEq

/-- The state at the start, with a given environment and clock. -/
def State.initial (environment : Settings.Environment) (clock : Time) : State where
  environment := environment
  remembered := none
  evaluations := 0
  lastShown := none
  logger := Logger.initial
  hierarchy := Hierarchy.initial
  errorStream := 0
  clock := clock

/-- Text written to an error stream. -/
structure Emission where
  stream : Nat
  text : String
deriving DecidableEq

/-! ## 2. Delivery of records -/

/-- A line that can be written, with its end. -/
def lineEnd : Except Log.RecordError String → Option String
  | .ok s => some (s ++ "\n")
  | .error _ => none

/-- Where a record goes that finds no handler. -/
def State.bare (s : State) (level : Int) (r : Record) : List Emission :=
  if level < Log.outermostLevel then []
  else ((lineEnd r.message).map fun text => ⟨s.errorStream, text⟩).toList

/-- The severity from which on a logger passes records. -/
def State.floorOf (s : State) (name : String) : Int :=
  if s.hierarchy.isWithin name then s.logger.effectiveLevel else Log.outermostLevel

/-- Whether a logger passes a severity, which has to be positive. What has
been decided once is not decided anew. -/
def State.passes (s : State) (name : String) (level : Int) : Bool :=
  match s.hierarchy.decision? name level with
  | some passes => passes
  | none => 0 < level ∧ s.floorOf name ≤ level

/-- The state after a logger was asked for and has decided about a severity.
While the calculator's logger is not configured every logger passes what
the outermost one does, so that nothing needs to be kept in mind. -/
def State.ask (s : State) (name : String) (level : Int) : State :=
  let s := { s with hierarchy := s.hierarchy.ask name }
  if s.logger.configured then
    { s with hierarchy := s.hierarchy.decide name level (s.passes name level) }
  else s

/-- Where a record goes that has passed its logger. The outermost logger has
no handlers, so that a record finds those of the calculator's logger or
none, whether it is passed on or not. A record that has no line is not
written; the complaint about it is left out. -/
def State.emit (s : State) (name : String) (level : Int) (r : Record) : List Emission :=
  if s.hierarchy.isWithin name ∧ s.logger.handlers ≠ [] then
    s.logger.handlers.filterMap fun h =>
      (lineEnd (r.lineAs h.format)).map fun text => ⟨h.stream, text⟩
  else s.bare level r

/-- What a record writes. -/
def State.deliver (s : State) (name : String) (level : Int) (r : Record) : List Emission :=
  if s.passes name level then s.emit name level r else []

/-- A record made at this point of a session. The line of the text in which
a call stands is no part of what the call does, and is given as zero. -/
def State.record (s : State) (name : String) (level : Int) (short : Decimal.IsShort level)
    (origin : Origin) (template : Value) (arguments : List Value) : Record :=
  Entry.record {
    logger := name
    level := level
    short := short
    module := origin.module
    function := some origin.function
    line := 0
    template := template
    arguments := arguments
    time := s.clock
    exception := none
    stack := origin.stack }

/-- What an event writes. The loggers of events exist from the start, and
their place never changes, so they are not asked for. -/
def State.report (s : State) (d : Diagnostic) : List Emission :=
  s.deliver d.logger d.level
    (s.record d.logger d.level d.short_level d.origin (.string d.message) [])

/-! ## 3. Settings and configuration -/

/-- The settings remembered, or else those of the environment, which are
remembered from now on. -/
def State.settings (s : State) : Except (List Settings.Problem) (Remembered × State) :=
  match s.remembered with
  | some r => .ok (r, s)
  | none =>
      (Settings.ofEnvironment s.environment).map fun settings =>
        let r : Remembered := ⟨s.evaluations, settings⟩
        (r, { s with remembered := some r, evaluations := s.evaluations + 1 })

/-- Configuration of the logger, unless it is configured already. -/
def State.configure (s : State) (u : Settings.Unchecked) : Except ThresholdError State :=
  if s.logger.configured then .ok s
  else
    (thresholdOf u.logLevel).map fun t =>
      { s with logger := s.logger.install ⟨u.lineFormat, s.errorStream⟩ t }

/-- What a step can fail with. -/
inductive Failure
  | environment (error : Settings.EnvironmentError)
  | settings (failure : Settings.Failure)
  | threshold (error : ThresholdError)
  | severity (error : TextError)
deriving DecidableEq

/-- Configuration with the settings of the session. They are not looked
at if the logger is configured already. -/
def State.configureFromSettings (s : State) : Except Failure State :=
  if s.logger.configured then .ok s
  else
    match s.settings with
    | .ok (r, s) => (s.configure r.settings.toUnchecked).mapError .threshold
    | .error ps => .error (.settings (.problems ps))

/-- Configuration with settings from keywords, which are checked in any
case. The files and folders that keywords may name hold nothing. -/
def State.configureFromKeywords (s : State) (keywords : List (String × Value)) :
    Except Failure State :=
  match Settings.ofKeywords keywords s.environment with
  | .ok settings => (s.configure settings.toUnchecked).mapError .threshold
  | .error e => .error (.settings e)

/-- Configuration with settings from keywords that are not checked. -/
def State.configureUnchecked (s : State) (keywords : List (String × Value)) :
    Except Failure State :=
  match Settings.Unchecked.ofKeywords keywords with
  | .ok u => (s.configure u).mapError .threshold
  | .error e => .error (.settings (.keywords e))

/-- Configuration at the start of a run: with the settings of the
session, or if those are invalid with the standard ones and a warning. -/
def State.configureForRun (s : State) : Except Failure (State × List Emission) :=
  match s.configureFromSettings with
  | .ok s => .ok (s, [])
  | .error (.settings (.problems ps)) =>
      match s.configure Settings.standard.toUnchecked with
      | .ok s => .ok (s, s.report (.settingsInvalid ps))
      | .error e => .error (.threshold e)
  | .error e => .error e

/-! ## 4. Steps -/

/-- A step of a session. -/
inductive Step
  | environment (changes : List (String × Option String))
  | showSettings
  | forgetSettings
  | evaluateSettings (keywords : List (String × Value))
  | configure (keywords : Option (List (String × Value)))
  | configureUnchecked (keywords : List (String × Value))
  | reset
  | replaceErrorStream
  | log (name : String) (level : Int) (origin : Origin) (template : Value)
      (arguments : List Value)
  | run (input : List Char)

/-- What a step shows. -/
inductive Outcome
  | done
  | settings (settings : Settings)
  | shown (settings : Settings) (same : Bool)
  | exited (code : Nat) (output : String)
  | failed (failure : Failure)

/-- The answer of a step: what it shows, and what it wrote to the error
streams. -/
structure Answer where
  outcome : Outcome
  written : List Emission

/-- The exit code of a run that came to its end. -/
def exitDone : Nat := 0

/-- The exit code of a run whose input ended too early. -/
def exitAborted : Nat := 1

/-- The exit code that goes with the value of a run. -/
def exitCode : Option Evaluation → Nat
  | some _ => exitDone
  | none => exitAborted

/-- A run of the calculator in a session. -/
def State.run (s : State) (input : List Char) : State × Answer :=
  match s.configureForRun with
  | .ok (s, warnings) =>
      let r := Console.run input
      (s, ⟨.exited (exitCode r.value) r.written,
        warnings ++ (Diagnostic.ofRun r).flatMap s.report⟩)
  | .error e => (s, ⟨.failed e, []⟩)

/-- The state after a configuration, which stays as it was on failure. -/
def afterConfiguration (s : State) : Except Failure State → State × Answer
  | .ok s => (s, ⟨.done, []⟩)
  | .error e => (s, ⟨.failed e, []⟩)

/-- Changes of environment variables, up to the first that fails. -/
def State.changeEnvironment (s : State) (changes : List (String × Option String)) :
    State × Answer :=
  match s.environment.changeAll changes with
  | (env, none) => ({ s with environment := env }, ⟨.done, []⟩)
  | (env, some e) => ({ s with environment := env }, ⟨.failed (.environment e), []⟩)

/-- A call of a logger. A severity that has no name ends it, if it passes. -/
def State.log (s : State) (name : String) (level : Int) (origin : Origin) (template : Value)
    (arguments : List Value) : State × Answer :=
  let s := s.ask name level
  if ¬ s.passes name level then (s, ⟨.done, []⟩)
  else if short : Decimal.IsShort level then
    (s, ⟨.done, s.emit name level (s.record name level short origin template arguments)⟩)
  else (s, ⟨.failed (.severity .tooManyDigits), []⟩)

/-- One step. -/
def step (s : State) : Step → State × Answer
  | .environment changes => s.changeEnvironment changes
  | .showSettings =>
      match s.settings with
      | .ok (r, s) =>
          ({ s with lastShown := some r.number },
            ⟨.shown r.settings (s.lastShown = some r.number), []⟩)
      | .error ps => (s, ⟨.failed (.settings (.problems ps)), []⟩)
  | .forgetSettings => ({ s with remembered := none }, ⟨.done, []⟩)
  | .evaluateSettings keywords =>
      match Settings.ofKeywords keywords s.environment with
      | .ok settings => (s, ⟨.settings settings, []⟩)
      | .error e => (s, ⟨.failed (.settings e), []⟩)
  | .configure none => afterConfiguration s s.configureFromSettings
  | .configure (some keywords) => afterConfiguration s (s.configureFromKeywords keywords)
  | .configureUnchecked keywords =>
      afterConfiguration s (s.configureUnchecked keywords)
  | .reset =>
      ({ s with logger := s.logger.reset, hierarchy := s.hierarchy.forget }, ⟨.done, []⟩)
  | .replaceErrorStream => ({ s with errorStream := s.errorStream + 1 }, ⟨.done, []⟩)
  | .log name level origin template arguments => s.log name level origin template arguments
  | .run input => s.run input

/-- The answers of a row of steps, with the state after each. -/
def steps (s : State) : List Step → List (State × Answer)
  | [] => []
  | t :: ts =>
      let r := step s t
      r :: steps r.1 ts

/-- The state after a row of steps. -/
def after (s : State) (ts : List Step) : State := ts.foldl (fun s t => (step s t).1) s

end Quadratic.Session
