/-
Quadratic.Proofs.FirstConfiguration — a configuration takes place as a whole
or not at all, and of several only the first that succeeds takes place.

The transitions of a session say at once what becomes of the state. Here
configuration is spelled out as the row of assignments that it is, with the
two points at which it may break off: the evaluation of settings, and the
severity. Whatever was assigned up to there stays assigned
(`configureInOrder`). Nothing was, apart from one case: settings may have been
evaluated, and are remembered from then on. But settings that were checked
have a severity that exists, so a call that evaluates them does not break
off after that.

* `run_configureInOrder` — the row of assignments is the transition of the
  session, also when it breaks off.
* `error_iff` — when it breaks off, and that nothing is left behind.
* `callAll_eq` — calls in a row.
* `logger_after_of_initial` — calls with other steps in between.
* `configure_atomic_and_first_wins` — all of it, after every history of a
  session.
-/
import Quadratic.Proofs.Memory

namespace Quadratic.Session

open Log (Time)

/-! ## 1. One assignment after the other -/

/-- A computation on the state of a session. One that fails leaves the state
as it was at that moment. -/
abbrev Action := EStateM Failure State

/-- The settings of the session. They are evaluated and remembered if none
are. -/
def evaluated : Action Settings := do
  match (← get).remembered with
  | some r => return r.settings
  | none =>
      match Settings.ofEnvironment (← get).environment with
      | .error ps => throw (.settings (.problems ps))
      | .ok settings =>
          modify fun s => { s with
            remembered := some ⟨s.evaluations, settings⟩
            evaluations := s.evaluations + 1 }
          return settings

def changeLogger (f : Logger → Logger) : Action Unit :=
  modify fun s => { s with logger := f s.logger }

def setThreshold (level : Value) : Action Unit :=
  match thresholdOf level with
  | .ok t => changeLogger fun l => { l with threshold := t }
  | .error e => throw (.threshold e)

/-- The assignments of a configuration, in the order in which they are made.
The first one may fail. -/
def installInOrder (u : Settings.Unchecked) : Action Unit := do
  let handler : Handler := ⟨u.lineFormat, (← get).errorStream⟩
  setThreshold u.logLevel
  changeLogger fun l => { l with handlers := l.handlers ++ [handler] }
  changeLogger fun l => { l with propagates := false }
  changeLogger fun l => { l with installed := some handler }
  changeLogger fun l => { l with configured := true }

/-- A call of the configuration, with settings that are given or else with
those of the session. -/
def configureInOrder (given : Option Settings.Unchecked) : Action Unit := do
  if (← get).logger.configured then return
  match given with
  | some u => installInOrder u
  | none => installInOrder (← evaluated).toUnchecked

/-! ## 2. The same in one transition -/

/-- A call as a transition of the session. -/
def State.configureWith (s : State) : Option Settings.Unchecked → Except Failure State
  | some u => (s.configure u).mapError .threshold
  | none => s.configureFromSettings

/-- The result of a transition that leaves everything as it was if it
fails. -/
def resultOf (s : State) : Except Failure State → EStateM.Result Failure State Unit
  | .ok s' => .ok () s'
  | .error e => .error e s

/-- Settings are evaluated as a whole or not at all. -/
theorem run_evaluated (s : State) :
    evaluated.run s = match s.settings with
      | .ok (r, s') => .ok r.settings s'
      | .error ps => .error (.settings (.problems ps)) s := by
  rcases settings_cases s with ⟨r, hsome, hr⟩ | ⟨settings, hnone, henv, hr⟩ | ⟨ps, hnone, henv, hr⟩
  · simp only [evaluated, EStateM.run_bind, EStateM.run_get, hsome, EStateM.run_pure, hr]
  · simp only [evaluated, EStateM.run_bind, EStateM.run_get, hnone, henv, EStateM.run_modify,
      EStateM.run_pure, hr]
  · simp only [evaluated, EStateM.run_bind, EStateM.run_get, hnone, henv, hr]
    rfl

theorem run_changeLogger (f : Logger → Logger) (s : State) :
    (changeLogger f).run s = .ok () { s with logger := f s.logger } := rfl

theorem run_setThreshold (level : Value) (s : State) :
    (setThreshold level).run s = match thresholdOf level with
      | .ok t => .ok () { s with logger := { s.logger with threshold := t } }
      | .error e => .error (.threshold e) s := by
  unfold setThreshold
  cases thresholdOf level <;> rfl

theorem run_installInOrder {s : State} (h : s.logger.configured = false) (u : Settings.Unchecked) :
    (installInOrder u).run s = resultOf s ((s.configure u).mapError .threshold) := by
  rw [State.configure, h, if_neg Bool.false_ne_true]
  simp only [installInOrder, EStateM.run_bind, EStateM.run_get, run_setThreshold, run_changeLogger]
  cases thresholdOf u.logLevel <;> rfl

theorem configureWith_of_configured {s : State} (h : s.logger.configured = true)
    (given : Option Settings.Unchecked) : s.configureWith given = .ok s := by
  cases given with
  | none => exact if_pos h
  | some u => rw [State.configureWith, State.configure, if_pos h, Except.mapError]

/-- The assignments of a call make up its transition. -/
theorem run_configureInOrder (s : State) (given : Option Settings.Unchecked) :
    (configureInOrder given).run s = resultOf s (s.configureWith given) := by
  simp only [configureInOrder, EStateM.run_bind, EStateM.run_get]
  cases hconfigured : s.logger.configured with
  | true =>
    rw [configureWith_of_configured hconfigured]
    rfl
  | false =>
    rw [if_neg Bool.false_ne_true]
    cases given with
    | some u => exact run_installInOrder hconfigured u
    | none =>
      rw [State.configureWith, State.configureFromSettings, hconfigured, if_neg Bool.false_ne_true,
        EStateM.run_bind, run_evaluated]
      cases hsettings : s.settings with
      | error ps => rfl
      | ok r =>
        -- The settings may be remembered from now on, but the call does not
        -- fail any more.
        obtain ⟨hlogger, -, -⟩ := settings_frame hsettings
        obtain ⟨s', hs'⟩ := configure_toUnchecked r.2 r.1.settings
        dsimp only
        rw [run_installInOrder (by rw [hlogger, hconfigured]), hs']
        rfl

/-! ## 3. Calls that fail -/

/-- Why a call fails: the session has no settings and those of the
environment are invalid, or the settings that are given have a severity that
does not exist. -/
inductive Refused (s : State) : Option Settings.Unchecked → Failure → Prop
  | settings {ps} (hnone : s.remembered = none)
      (henv : Settings.ofEnvironment s.environment = .error ps) :
      Refused s none (.settings (.problems ps))
  | threshold {u e} (h : thresholdOf u.logLevel = .error e) : Refused s (some u) (.threshold e)

theorem settings_eq_error_iff (s : State) (ps : List Settings.Problem) :
    s.settings = .error ps ↔
      s.remembered = none ∧ Settings.ofEnvironment s.environment = .error ps := by
  unfold State.settings
  cases s.remembered with
  | some r => simp
  | none => cases Settings.ofEnvironment s.environment <;> simp [Except.map]

theorem configureWith_eq_error_iff {s : State} (h : s.logger.configured = false)
    (given : Option Settings.Unchecked) (e : Failure) :
    s.configureWith given = .error e ↔ Refused s given e := by
  constructor
  · intro herror
    cases given with
    | some u =>
      rw [State.configureWith, State.configure, h, if_neg Bool.false_ne_true] at herror
      cases hthreshold : thresholdOf u.logLevel with
      | ok t =>
        rw [hthreshold] at herror
        cases herror
      | error e' =>
        rw [hthreshold] at herror
        cases herror
        exact .threshold hthreshold
    | none =>
      rw [State.configureWith, State.configureFromSettings, h, if_neg Bool.false_ne_true] at herror
      cases hsettings : s.settings with
      | ok r =>
        obtain ⟨s', hs'⟩ := configure_toUnchecked r.2 r.1.settings
        rw [hsettings] at herror
        dsimp only at herror
        rw [hs'] at herror
        cases herror
      | error ps =>
        rw [hsettings] at herror
        cases herror
        obtain ⟨hnone, henv⟩ := (settings_eq_error_iff s ps).mp hsettings
        exact .settings hnone henv
  · rintro (⟨hnone, henv⟩ | ⟨hthreshold⟩)
    · rw [State.configureWith, State.configureFromSettings, h, if_neg Bool.false_ne_true,
        (settings_eq_error_iff s _).mpr ⟨hnone, henv⟩]
    · rw [State.configureWith, State.configure, h, if_neg Bool.false_ne_true, hthreshold]
      rfl

/-- When a call fails, and that it leaves nothing behind. -/
theorem error_iff (s : State) (given : Option Settings.Unchecked) (e : Failure) (s' : State) :
    (configureInOrder given).run s = .error e s' ↔
      s.logger.configured = false ∧ Refused s given e ∧ s' = s := by
  rw [run_configureInOrder]
  cases hconfigured : s.logger.configured with
  | true =>
    rw [configureWith_of_configured hconfigured]
    exact iff_of_false nofun fun h => Bool.noConfusion h.1
  | false =>
    rw [← configureWith_eq_error_iff hconfigured, eq_comm (a := s'), and_iff_right rfl]
    cases s.configureWith given with
    | ok s₁ => simp [resultOf]
    | error e' => simp [resultOf]

/-! ## 4. Calls in a row -/

/-- The state after a call, whether it fails or not. -/
def State.call (s : State) (given : Option Settings.Unchecked) : State :=
  match (configureInOrder given).run s with
  | .ok () s' => s'
  | .error _ s' => s'

/-- Whether a call succeeds. -/
def State.accepts (s : State) (given : Option Settings.Unchecked) : Bool :=
  match (configureInOrder given).run s with
  | .ok () _ => true
  | .error _ _ => false

/-- The state after a row of calls. -/
def callAll (s : State) (calls : List (Option Settings.Unchecked)) : State :=
  calls.foldl State.call s

theorem configured_configureWith {s s' : State} {given : Option Settings.Unchecked}
    (h : s.configureWith given = .ok s') : s'.logger.configured = true := by
  cases given with
  | none => exact (configured_configureFromSettings h).configured
  | some u => exact (configured_configure (ok_of_mapError h)).configured

/-- A call configures the logger, or it fails and changes nothing. -/
theorem call_cases (s : State) (given : Option Settings.Unchecked) :
    (s.accepts given = true ∧ (s.call given).logger.configured = true) ∨
      (s.accepts given = false ∧ s.call given = s) := by
  rw [State.accepts, State.call, run_configureInOrder]
  cases hr : s.configureWith given with
  | ok s' => exact .inl ⟨rfl, configured_configureWith hr⟩
  | error e => exact .inr ⟨rfl, rfl⟩

theorem callAll_of_configured {s : State} (h : s.logger.configured = true)
    (calls : List (Option Settings.Unchecked)) : callAll s calls = s := by
  induction calls with
  | nil => rfl
  | cons given calls ih =>
    have hcall : s.call given = s := by
      rw [State.call, run_configureInOrder, configureWith_of_configured h]
      rfl
    rw [callAll, List.foldl_cons, hcall]
    exact ih

/-- Calls in a row leave behind what the first of them that succeeds leaves
behind. -/
theorem callAll_eq (s : State) (calls : List (Option Settings.Unchecked)) :
    callAll s calls = callAll s (calls.find? s.accepts).toList := by
  induction calls with
  | nil => rfl
  | cons given calls ih =>
    rcases call_cases s given with ⟨haccepts, hconfigured⟩ | ⟨haccepts, hcall⟩
    · rw [List.find?_cons, haccepts]
      exact callAll_of_configured hconfigured calls
    · rw [List.find?_cons, haccepts, callAll, List.foldl_cons, hcall]
      exact ih

/-! ## 5. Calls in a session -/

/-- What a step hands over to the configuration: settings, or none. A step
whose own settings are refused does not come to a call. -/
def argument (s : State) : Step → Option (Option Settings.Unchecked)
  | .configure none => some none
  | .configure (some keywords) =>
      (Settings.ofKeywords keywords s.environment).toOption.map fun settings =>
        some settings.toUnchecked
  | .configureUnchecked keywords => (Settings.Unchecked.ofKeywords keywords).toOption.map some
  | _ => none

/-- The answer of a step that is a call. -/
def answerOf : EStateM.Result Failure State Unit → State × Answer
  | .ok () s => (s, ⟨.done, []⟩)
  | .error e s => (s, ⟨.failed e, []⟩)

theorem answerOf_resultOf (s : State) (r : Except Failure State) :
    answerOf (resultOf s r) = afterConfiguration s r := by
  cases r <;> rfl

/-- A step that comes to a call does what the call does. -/
theorem step_of_argument {s : State} {t : Step} {given : Option Settings.Unchecked}
    (h : argument s t = some given) : step s t = answerOf ((configureInOrder given).run s) := by
  rw [run_configureInOrder, answerOf_resultOf]
  cases t with
  | configure keywords =>
    cases keywords with
    | none =>
      cases h
      rfl
    | some keywords =>
      rw [argument] at h
      rw [step, State.configureFromKeywords]
      cases hsettings : Settings.ofKeywords keywords s.environment with
      | error e =>
        rw [hsettings] at h
        cases h
      | ok settings =>
        rw [hsettings] at h
        cases h
        rfl
  | configureUnchecked keywords =>
    rw [argument] at h
    rw [step, State.configureUnchecked]
    cases hsettings : Settings.Unchecked.ofKeywords keywords with
    | error e =>
      rw [hsettings] at h
      cases h
    | ok u =>
      rw [hsettings] at h
      cases h
      rfl
  | _ => cases h

/-- Between two resets the logger stays as it was, or one step configures it
and none before or after that step changes it. -/
theorem logger_after_of_initial {s : State} (hs : s.logger = .initial) {ts : List Step}
    (hts : ∀ t ∈ ts, t ≠ .reset) :
    (after s ts).logger = s.logger ∨
      ∃ before t since, before ++ t :: since = ts ∧ (after s before).logger = s.logger ∧
        (after s (before ++ [t])).logger.configured = true ∧
        (after s ts).logger = (after s (before ++ [t])).logger := by
  induction ts using List.reverseRecOn with
  | nil => exact .inl rfl
  | append_singleton ts t ih =>
    have hstep := loggerStep (after s ts) t
    have ht : t ≠ .reset := hts t (by simp)
    rcases ih fun u hu => hts u (List.mem_append_left _ hu) with
      hsame | ⟨before, u, since, rfl, hbefore, hconfigured, hlogger⟩
    · cases hconfigured : (after s (ts ++ [t])).logger.configured with
      | true => exact .inr ⟨ts, t, [], rfl, hsame, hconfigured, rfl⟩
      | false =>
        left
        rw [hs]
        exact (isClean_after hs _).eq_initial hconfigured
    · right
      refine ⟨before, u, since ++ [t], by simp, hbefore, hconfigured, ?_⟩
      rw [after_concat, hstep.eq_of_configured (by rw [hlogger, hconfigured]) ht, hlogger]

/-- Configuration after any history of a session, with settings that are
given, checked or not, or with those of the session. A step of a session
that comes to it does what its row of assignments does.

If the logger is configured already, a call succeeds and leaves the state as
it is; the environment, which may be invalid by then, does not matter. A call
fails only if the logger is not configured, and for one of two causes: no
settings are remembered and those of the environment are invalid, or the
severity that is given does not exist. Then it leaves the state as it was,
after whichever of its assignments it broke off.

So calls in a row do what the first of them that succeeds does alone. With
other steps in between, as long as none is a reset, the logger is what it
was, or what one step made of it that found it as it was; nothing before or
after that step has an effect on it. -/
theorem configure_atomic_and_first_wins (environment : Settings.Environment) (clock : Time)
    (history : List Step) :
    let s := after (State.initial environment clock) history
    (∀ t given, argument s t = some given →
      step s t = answerOf ((configureInOrder given).run s)) ∧
    (s.logger.configured = true → ∀ given, (configureInOrder given).run s = .ok () s) ∧
    (∀ given e s', (configureInOrder given).run s = .error e s' ↔
      s.logger.configured = false ∧ Refused s given e ∧ s' = s) ∧
    (∀ calls, callAll s calls = callAll s (calls.find? s.accepts).toList) ∧
    (s.logger.configured = false → ∀ ts : List Step, (∀ t ∈ ts, t ≠ .reset) →
      (after s ts).logger = s.logger ∨
        ∃ before t since, before ++ t :: since = ts ∧ (after s before).logger = s.logger ∧
          (after s (before ++ [t])).logger.configured = true ∧
          (after s ts).logger = (after s (before ++ [t])).logger) := by
  intro s
  refine ⟨fun t given => step_of_argument, fun hconfigured given => ?_, error_iff s, callAll_eq s,
    fun hconfigured ts hts => ?_⟩
  · rw [run_configureInOrder, configureWith_of_configured hconfigured]
    rfl
  · have hclean : s.logger.IsClean := isClean_after rfl history
    exact logger_after_of_initial (hclean.eq_initial hconfigured) hts

-- An environment that is invalid, a severity that does not exist, one that
-- does, and a call that comes too late.
example :
    let s := State.initial [("DISCRIMINANT_LOG_LEVEL", "LOUD")] ⟨0, 0⟩
    callAll s [none, some ⟨.string "LOUD", .none⟩, some ⟨.int 15, .string "json"⟩,
      some ⟨.string "ERROR", .string "text"⟩] =
      { s with logger := Logger.initial.install ⟨.json, 0⟩ (.number 15) } := by
  decide

end Quadratic.Session
