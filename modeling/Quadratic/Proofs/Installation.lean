/-
Quadratic.Proofs.Installation — which configuration the logger is in,
after any history of a session.

Three kinds of step configure the logger, and so does every run. Each of
them may come too late, when the logger is configured already, and may
fail half-way: settings may be invalid, and a severity that was not
checked may not exist. What is left of all this is one place of the
history at most, the INSTALLATION: the step that found the logger
unconfigured, brought settings that it could use, and was not followed by
a reset.

* `settingsFor` — the settings that a step brings to the logger.
* `RunConfiguration` — the three ways in which a run can be configured.
* `LoggerStep` — what a step does to the logger: it resets it, installs a
  handler, or leaves it alone (`loggerStep`).
* `Installation` — a place of a history, with the proofs that it is the one
  described above.
* `Installation.logger_eq`, `exists_installation` — the logger holds what
  an installation put there, and there is one if it holds anything.
* `logger_after_history` — both, for every history of a session.
-/
import Mathlib.Data.List.Induction
import Mathlib.Logic.IsEmpty.Defs
import Quadratic.Proofs.Isolation

namespace Quadratic.Session

open Log (LevelName Time)

/-! ## 1. What a step brings -/

/-- The settings that a step brings to the logger. A run brings the
standard ones if those of the session are invalid. -/
def settingsFor (s : State) : Step → Option Settings.Unchecked
  | .configure none => s.settings.toOption.map fun r => r.1.settings.toUnchecked
  | .configure (some keywords) =>
      (Settings.ofKeywords keywords s.environment).toOption.map Settings.toUnchecked
  | .configureUnchecked keywords => (Settings.Unchecked.ofKeywords keywords).toOption
  | .run _ =>
      match s.settings with
      | .ok r => some r.1.settings.toUnchecked
      | .error _ => some Settings.standard.toUnchecked
  | _ => none

/-- A step finds the logger unconfigured and brings settings with a
severity that exists. -/
structure TakesEffect (s : State) (t : Step) (u : Settings.Unchecked) (threshold : Threshold) :
    Prop where
  unconfigured : s.logger.configured = false
  settingsFor_step : settingsFor s t = some u
  thresholdOf_level : thresholdOf u.logLevel = .ok threshold

/-- What a step does to the logger. -/
inductive LoggerStep (s : State) : Step → Logger → Prop
  | reset : LoggerStep s .reset s.logger.reset
  | installed {t u threshold} (h : TakesEffect s t u threshold) :
      LoggerStep s t (s.logger.install ⟨u.lineFormat, s.errorStream⟩ threshold)
  | unchanged {t} (hreset : t ≠ .reset) (h : ∀ u threshold, ¬ TakesEffect s t u threshold) :
      LoggerStep s t s.logger

/-! ## 2. One step -/

/-- Evaluation of settings leaves the loggers, the error stream and the clock
alone. -/
theorem settings_frame {s s' : State} {r : Remembered} (h : s.settings = .ok (r, s')) :
    s'.logger = s.logger ∧ s'.errorStream = s.errorStream ∧ s'.hierarchy = s.hierarchy ∧
      s'.clock = s.clock := by
  unfold State.settings at h
  split at h
  · cases h
    exact ⟨rfl, rfl, rfl, rfl⟩
  · cases hsettings : Settings.ofEnvironment s.environment with
    | error ps =>
      rw [hsettings] at h
      cases h
    | ok settings =>
      rw [hsettings] at h
      cases h
      exact ⟨rfl, rfl, rfl, rfl⟩

/-- A logger that is asked for changes nothing but the hierarchy. -/
theorem ask_eq (s : State) (name : String) (level : Int) :
    s.ask name level = { s with hierarchy := (s.ask name level).hierarchy } := by
  by_cases hconfigured : s.logger.configured = true
  · simp only [State.ask, if_pos hconfigured]
  · simp only [State.ask, if_neg hconfigured]

theorem step_log (s : State) (name : String) (level : Int) (origin : Log.Origin)
    (template : Value) (arguments : List Value) :
    (step s (.log name level origin template arguments)).1 = s.ask name level := by
  rw [step, State.log]
  split
  · rfl
  · split <;> rfl

section

variable {s s' : State} {t : Step} {u : Settings.Unchecked}

/-- A step that finds the logger configured, and is no reset, leaves it
alone. -/
theorem LoggerStep.of_configured (hconfigured : s.logger.configured = true) (hreset : t ≠ .reset) :
    LoggerStep s t s.logger := by
  refine .unchanged hreset fun u threshold h => ?_
  rw [h.unconfigured] at hconfigured
  cases hconfigured

/-- A step that brings no settings, and is no reset, leaves the logger
alone. -/
theorem LoggerStep.of_no_settings (hsettings : settingsFor s t = none) (hreset : t ≠ .reset) :
    LoggerStep s t s.logger := by
  refine .unchanged hreset fun u threshold h => ?_
  rw [h.settingsFor_step] at hsettings
  cases hsettings

variable (hsettings : settingsFor s t = some u) (hreset : t ≠ .reset)
  (hlogger : s'.logger = s.logger) (hstream : s'.errorStream = s.errorStream)

include hsettings hreset hlogger hstream

/-- A configuration with the settings of a step, in a state that may
remember more than the one before it. -/
theorem loggerStep_configure :
    (∃ s₁, s'.configure u = .ok s₁ ∧ LoggerStep s t s₁.logger) ∨
      ∃ e, s'.configure u = .error e ∧ LoggerStep s t s.logger := by
  unfold State.configure
  rw [hlogger, hstream]
  cases hconfigured : s.logger.configured with
  | true => exact .inl ⟨s', rfl, hlogger ▸ .of_configured hconfigured hreset⟩
  | false =>
    rw [if_neg Bool.false_ne_true]
    cases hthreshold : thresholdOf u.logLevel with
    | ok threshold => exact .inl ⟨_, rfl, .installed ⟨hconfigured, hsettings, hthreshold⟩⟩
    | error e =>
      refine .inr ⟨e, rfl, .unchanged hreset fun u' threshold h => ?_⟩
      obtain rfl : u = u' := Option.some.inj (hsettings.symm.trans h.settingsFor_step)
      have hok := h.thresholdOf_level
      rw [hthreshold] at hok
      cases hok

/-- What is left of a configuration. -/
theorem loggerStep_afterConfiguration :
    LoggerStep s t (afterConfiguration s ((s'.configure u).mapError .threshold)).1.logger := by
  rcases loggerStep_configure hsettings hreset hlogger hstream with ⟨s₁, hs₁, hstep⟩ | ⟨e, he, hstep⟩
  · rw [hs₁]
    exact hstep
  · rw [he]
    exact hstep

end

/-- Settings that were checked always have a severity that exists. -/
theorem loggerStep_toUnchecked {s s' : State} {t : Step} {settings : Settings}
    (hsettings : settingsFor s t = some settings.toUnchecked) (hreset : t ≠ .reset)
    (hlogger : s'.logger = s.logger) (hstream : s'.errorStream = s.errorStream) :
    ∃ s₁, s'.configure settings.toUnchecked = .ok s₁ ∧ LoggerStep s t s₁.logger := by
  obtain ⟨s₂, hs₂⟩ := configure_toUnchecked s' settings
  rcases loggerStep_configure hsettings hreset hlogger hstream with ⟨s₁, hs₁, hstep⟩ | ⟨e, he, -⟩
  · exact ⟨s₁, hs₁, hstep⟩
  · rw [hs₂] at he
    cases he

theorem loggerStep_configureFromSettings (s : State) :
    LoggerStep s (.configure none) (afterConfiguration s s.configureFromSettings).1.logger := by
  unfold State.configureFromSettings
  cases hconfigured : s.logger.configured with
  | true => exact .of_configured hconfigured nofun
  | false =>
    rw [if_neg Bool.false_ne_true]
    cases hsettings : s.settings with
    | error ps =>
      refine .of_no_settings ?_ nofun
      rw [settingsFor, hsettings]
      rfl
    | ok r =>
      obtain ⟨hlogger, hstream, -⟩ := settings_frame hsettings
      refine loggerStep_afterConfiguration ?_ nofun hlogger hstream
      rw [settingsFor, hsettings]
      rfl

theorem loggerStep_configureFromKeywords (s : State) (keywords : List (String × Value)) :
    LoggerStep s (.configure (some keywords))
      (afterConfiguration s (s.configureFromKeywords keywords)).1.logger := by
  unfold State.configureFromKeywords
  cases hsettings : Settings.ofKeywords keywords s.environment with
  | error e =>
    refine .of_no_settings ?_ nofun
    rw [settingsFor, hsettings]
    rfl
  | ok settings =>
    refine loggerStep_afterConfiguration ?_ nofun rfl rfl
    rw [settingsFor, hsettings]
    rfl

theorem loggerStep_configureUnchecked (s : State) (keywords : List (String × Value)) :
    LoggerStep s (.configureUnchecked keywords)
      (afterConfiguration s (s.configureUnchecked keywords)).1.logger := by
  unfold State.configureUnchecked
  cases hsettings : Settings.Unchecked.ofKeywords keywords with
  | error e =>
    refine .of_no_settings ?_ nofun
    rw [settingsFor, hsettings]
    rfl
  | ok u =>
    refine loggerStep_afterConfiguration ?_ nofun rfl rfl
    rw [settingsFor, hsettings]
    rfl

/-- How a run is configured, and the warning that it begins with. -/
inductive RunConfiguration (s : State) : State → List Emission → Prop
  | kept (hconfigured : s.logger.configured = true) : RunConfiguration s s []
  | settings {r s₁ s'} (hconfigured : s.logger.configured = false)
      (hsettings : s.settings = .ok (r, s₁))
      (hconfigure : s₁.configure r.settings.toUnchecked = .ok s') : RunConfiguration s s' []
  | standard {ps s'} (hconfigured : s.logger.configured = false)
      (hsettings : s.settings = .error ps)
      (hconfigure : s.configure Settings.standard.toUnchecked = .ok s') :
      RunConfiguration s s' (s'.report (.settingsInvalid ps))

theorem runConfiguration {s s' : State} {warnings : List Emission}
    (h : s.configureForRun = .ok (s', warnings)) : RunConfiguration s s' warnings := by
  unfold State.configureForRun State.configureFromSettings at h
  cases hconfigured : s.logger.configured with
  | true =>
    rw [if_pos hconfigured] at h
    cases h
    exact .kept hconfigured
  | false =>
    rw [if_neg (Bool.eq_false_iff.mp hconfigured)] at h
    cases hsettings : s.settings with
    | ok r =>
      obtain ⟨s₂, hs₂⟩ := configure_toUnchecked r.2 r.1.settings
      rw [hsettings] at h
      dsimp only at h
      rw [hs₂] at h
      cases h
      exact .settings hconfigured hsettings hs₂
    | error ps =>
      obtain ⟨s₂, hs₂⟩ := configure_toUnchecked s Settings.standard
      rw [hsettings] at h
      dsimp only at h
      rw [hs₂] at h
      cases h
      exact .standard hconfigured hsettings hs₂

/-- A run configures the logger before it does anything else. -/
theorem loggerStep_run (s : State) (input : List Char) :
    LoggerStep s (.run input) (s.run input).1.logger := by
  have hreset : Step.run input ≠ .reset := Step.noConfusion
  obtain ⟨⟨s', warnings⟩, hr⟩ := configureForRun_ok s
  have hs' : (s.run input).1 = s' := by rw [State.run, hr]
  rw [hs']
  cases runConfiguration hr with
  | kept hconfigured => exact .of_configured hconfigured hreset
  | @settings r s₁ _ hconfigured hsettings hconfigure =>
    have hused : settingsFor s (.run input) = some r.settings.toUnchecked := by
      rw [settingsFor, hsettings]
    obtain ⟨hlogger, hstream, -⟩ := settings_frame hsettings
    obtain ⟨s₂, hs₂, hstep⟩ := loggerStep_toUnchecked hused hreset hlogger hstream
    rw [hconfigure] at hs₂
    cases hs₂
    exact hstep
  | @standard ps _ hconfigured hsettings hconfigure =>
    have hused : settingsFor s (.run input) = some Settings.standard.toUnchecked := by
      rw [settingsFor, hsettings]
    obtain ⟨s₂, hs₂, hstep⟩ := loggerStep_toUnchecked hused hreset rfl rfl
    rw [hconfigure] at hs₂
    cases hs₂
    exact hstep

/-- What a step does to the logger. -/
theorem loggerStep (s : State) (t : Step) : LoggerStep s t (step s t).1.logger := by
  cases t with
  | environment changes =>
    have hframe : (s.changeEnvironment changes).1.logger = s.logger := by
      unfold State.changeEnvironment
      split <;> rfl
    rw [step, hframe]
    exact .of_no_settings rfl nofun
  | showSettings =>
    rw [step]
    cases hsettings : s.settings with
    | error ps => exact .of_no_settings rfl nofun
    | ok r =>
      dsimp only
      rw [(settings_frame hsettings).1]
      exact .of_no_settings rfl nofun
  | forgetSettings => exact .of_no_settings rfl nofun
  | evaluateSettings keywords =>
    rw [step]
    split <;> exact .of_no_settings rfl nofun
  | configure keywords =>
    cases keywords with
    | none => exact loggerStep_configureFromSettings s
    | some keywords => exact loggerStep_configureFromKeywords s keywords
  | configureUnchecked keywords => exact loggerStep_configureUnchecked s keywords
  | reset => exact .reset
  | replaceErrorStream => exact .of_no_settings rfl nofun
  | log name level origin template arguments =>
    rw [step_log, ask_eq]
    exact .of_no_settings rfl nofun
  | run input => exact loggerStep_run s input

/-! ## 3. The logger is clean -/

/-- A logger without a handler, or with the one that was installed and no
other. -/
def Logger.IsClean (l : Logger) : Prop :=
  l = .initial ∨ ∃ h threshold, l = Logger.initial.install h threshold

theorem Logger.IsClean.eq_initial {l : Logger} (hl : l.IsClean) (h : l.configured = false) :
    l = .initial := by
  rcases hl with hl | ⟨handler, threshold, rfl⟩
  · exact hl
  · cases h

theorem Logger.IsClean.reset {l : Logger} (hl : l.IsClean) : l.reset = .initial := by
  rcases hl with rfl | ⟨handler, threshold, rfl⟩
  · rfl
  · have herase : [handler].erase handler = [] := List.erase_cons_head handler []
    rw [Logger.reset, Logger.install, Logger.initial, List.nil_append]
    dsimp only
    rw [herase]

section

variable {s : State} {t : Step} {l : Logger} (hstep : LoggerStep s t l)

include hstep

/-- Every step keeps the logger clean. -/
theorem LoggerStep.isClean (hl : s.logger.IsClean) : l.IsClean := by
  cases hstep with
  | reset => exact .inl hl.reset
  | installed h => exact .inr ⟨_, _, by rw [hl.eq_initial h.unconfigured]⟩
  | unchanged => exact hl

/-- Once the logger is configured, nothing but a reset changes it. -/
theorem LoggerStep.eq_of_configured (hconfigured : s.logger.configured = true)
    (hreset : t ≠ .reset) : l = s.logger := by
  cases hstep with
  | reset => exact absurd rfl hreset
  | installed h =>
    rw [h.unconfigured] at hconfigured
    cases hconfigured
  | unchanged => rfl

/-- A step that takes effect installs its own settings. -/
theorem LoggerStep.eq_install {u : Settings.Unchecked} {threshold : Threshold}
    (h : TakesEffect s t u threshold) :
    l = s.logger.install ⟨u.lineFormat, s.errorStream⟩ threshold := by
  cases hstep with
  | reset => cases h.settingsFor_step
  | installed h' =>
    obtain rfl := Option.some.inj (h.settingsFor_step.symm.trans h'.settingsFor_step)
    obtain rfl := Except.ok.inj (h.thresholdOf_level.symm.trans h'.thresholdOf_level)
    rfl
  | unchanged _ hnone => exact absurd h (hnone u threshold)

end

/-! ## 4. Whole histories -/

theorem after_append (s : State) (ts us : List Step) :
    after s (ts ++ us) = after (after s ts) us := by
  rw [after, after, after, List.foldl_append]

theorem after_concat (s : State) (ts : List Step) (t : Step) :
    after s (ts ++ [t]) = (step (after s ts) t).1 := after_append s ts [t]

theorem isClean_after {start : State} (hstart : start.logger = .initial) (ts : List Step) :
    (after start ts).logger.IsClean := by
  induction ts using List.reverseRecOn with
  | nil => exact .inl hstart
  | append_singleton ts t ih =>
    rw [after_concat]
    exact (loggerStep _ t).isClean ih

theorem logger_after_of_configured {s : State} (hconfigured : s.logger.configured = true)
    {ts : List Step} (hts : ∀ t ∈ ts, t ≠ .reset) : (after s ts).logger = s.logger := by
  induction ts using List.reverseRecOn with
  | nil => rfl
  | append_singleton ts t ih =>
    have hts' := ih fun u hu => hts u (List.mem_append_left _ hu)
    rw [after_concat, ← hts']
    refine (loggerStep _ t).eq_of_configured ?_ (hts t (by simp))
    rwa [hts']

/-- The place of a history at which the logger was configured for the last
time. -/
structure Installation (start : State) (history : List Step) where
  before : List Step
  step : Step
  since : List Step
  settings : Settings.Unchecked
  threshold : Threshold
  history_eq : before ++ step :: since = history
  takesEffect : TakesEffect (after start before) step settings threshold
  not_reset : ∀ t ∈ since, t ≠ .reset

namespace Installation

variable {start : State} {history : List Step}

/-- The error stream that was current when the logger was configured. -/
def stream (i : Installation start history) : Nat := (after start i.before).errorStream

/-- The handler that was installed. -/
def handler (i : Installation start history) : Handler := ⟨i.settings.lineFormat, i.stream⟩

/-- An installation is still in effect after a step that is no reset. -/
def concat (i : Installation start history) {t : Step} (ht : t ≠ .reset) :
    Installation start (history ++ [t]) :=
  { i with
    since := i.since ++ [t]
    history_eq := by
      have h := congrArg (· ++ [t]) i.history_eq
      rwa [List.append_assoc, List.cons_append] at h
    not_reset := by
      intro u hu
      rcases List.mem_append.mp hu with hu | hu
      · exact i.not_reset u hu
      · rwa [List.mem_singleton.mp hu] }

/-- A step that takes effect is an installation. -/
def last {t : Step} {u : Settings.Unchecked} {threshold : Threshold}
    (h : TakesEffect (after start history) t u threshold) : Installation start (history ++ [t]) where
  before := history
  step := t
  since := []
  settings := u
  threshold := threshold
  history_eq := rfl
  takesEffect := h
  not_reset := nofun

/-- The logger is what the installation made of it. -/
theorem logger_eq (hstart : start.logger = .initial) (i : Installation start history) :
    (after start history).logger = Logger.initial.install i.handler i.threshold := by
  have hinitial := (isClean_after hstart i.before).eq_initial i.takesEffect.unconfigured
  have hinstall := (loggerStep _ i.step).eq_install i.takesEffect
  rw [hinitial] at hinstall
  have hsince := logger_after_of_configured (s := (Session.step (after start i.before) i.step).1)
    (by rw [hinstall]; rfl) i.not_reset
  have hhistory := congrArg (fun ts => (after start ts).logger) i.history_eq
  rw [← hhistory, after_append, handler, stream, ← hinstall, ← hsince]
  rfl

end Installation

/-- A logger that is configured was installed at some place. -/
theorem exists_installation {start : State} (hstart : start.logger = .initial) {ts : List Step}
    (h : (after start ts).logger.configured = true) : Nonempty (Installation start ts) := by
  induction ts using List.reverseRecOn with
  | nil =>
    rw [after, List.foldl_nil, hstart] at h
    cases h
  | append_singleton ts t ih =>
    rw [after_concat] at h
    have hstep := loggerStep (after start ts) t
    generalize (step (after start ts) t).1.logger = l at h hstep
    cases hstep with
    | reset => cases h
    | installed heffect => exact ⟨.last heffect⟩
    | unchanged hreset =>
      obtain ⟨i⟩ := ih h
      exact ⟨i.concat hreset⟩

/-- The logger after any history of a session. Either it is configured, and
some place of the history is an installation. Then it has one handler,
nothing is passed on, its threshold is the one that the settings of the
installation name, and the handler writes to the error stream that was
current there. Or it is not configured, and no place is one. Then it has
no handler, passes everything on, and has no threshold of its own. -/
theorem logger_after_history (environment : Settings.Environment) (clock : Time) (history : List Step) :
    let start := State.initial environment clock
    let logger := (after start history).logger
    (logger.configured = true ∧ Nonempty (Installation start history) ∧
      ∀ i : Installation start history,
        logger.handlers = [⟨i.settings.lineFormat, (after start i.before).errorStream⟩] ∧
        logger.propagates = false ∧
        thresholdOf i.settings.logLevel = .ok logger.threshold) ∨
    (logger.configured = false ∧ IsEmpty (Installation start history) ∧
      logger.handlers = [] ∧ logger.propagates = true ∧ logger.threshold = .number 0) := by
  intro start logger
  have hstart : start.logger = .initial := rfl
  cases hconfigured : logger.configured with
  | true =>
    refine .inl ⟨rfl, exists_installation hstart hconfigured, fun i => ?_⟩
    have hlogger : logger = _ := i.logger_eq hstart
    rw [hlogger]
    exact ⟨rfl, rfl, i.takesEffect.thresholdOf_level⟩
  | false =>
    have hlogger : logger = .initial := (isClean_after hstart history).eq_initial hconfigured
    refine .inr ⟨rfl, ⟨fun i => ?_⟩, ?_⟩
    · have hinstalled : logger = _ := i.logger_eq hstart
      rw [hinstalled] at hconfigured
      cases hconfigured
    · rw [hlogger]
      exact ⟨rfl, rfl, rfl⟩

-- A severity that does not exist, then one that does, then a step that
-- comes too late.
example :
    (after (State.initial [] ⟨0, 0⟩)
      [.configureUnchecked [("log_level", .string "LOUD")],
       .replaceErrorStream,
       .configureUnchecked [("log_level", .string "DEBUG"), ("log_format", .string "json")],
       .replaceErrorStream,
       .configure none]).logger = Logger.initial.install ⟨.json, 1⟩ (.number 10) := by
  decide

end Quadratic.Session
