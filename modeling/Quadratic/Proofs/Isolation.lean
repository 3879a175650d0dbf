/-
Quadratic.Proofs.Isolation — settings and logging never reach the
calculation.

A session changes its environment, remembers settings, configures and
resets its logger, and replaces the error stream. A run looks at all of
this once, when it configures the logger, and that cannot fail: settings
that were checked name a level (`configure_toUnchecked`), and settings
that are invalid are replaced by the standard ones
(`configureForRun_ok`). What the run then shows depends on its input
alone.

* `outcome_run` — one run, in any state.
* `run_isolated` — a run after any history against a run at the start of
  a session, and what the exit code says.
-/
import Quadratic.Proofs.Transcript
import Quadratic.Session

namespace Quadratic.Session

open Log (LevelName Time)

/-! ## 1. Configuration cannot fail -/

/-- The spelling of a level names that level's threshold. -/
theorem thresholdOf_text (l : LevelName) :
    thresholdOf (.string l.text) = .ok (.number l.number) := by
  cases l <;> rfl

/-- Settings that were checked can be used, whatever the state. -/
theorem configure_toUnchecked (s : State) (settings : Settings) :
    ∃ s', s.configure settings.toUnchecked = .ok s' := by
  unfold State.configure
  by_cases hconfigured : s.logger.configured = true
  · exact ⟨s, if_pos hconfigured⟩
  · rw [if_neg hconfigured, Settings.toUnchecked, thresholdOf_text]
    exact ⟨_, rfl⟩

/-- Configuration with the settings of the session fails only if these
are invalid. -/
theorem configureFromSettings_cases (s : State) :
    (∃ s', s.configureFromSettings = .ok s') ∨
      ∃ ps, s.configureFromSettings = .error (.settings (.problems ps)) := by
  unfold State.configureFromSettings
  by_cases hconfigured : s.logger.configured = true
  · exact .inl ⟨s, if_pos hconfigured⟩
  · rw [if_neg hconfigured]
    cases hsettings : s.settings with
    | error ps => exact .inr ⟨ps, rfl⟩
    | ok r =>
      obtain ⟨s', hs'⟩ := configure_toUnchecked r.2 r.1.settings
      refine .inl ⟨s', ?_⟩
      dsimp only
      rw [hs']
      rfl

/-- Configuration at the start of a run does not fail. -/
theorem configureForRun_ok (s : State) : ∃ r, s.configureForRun = .ok r := by
  unfold State.configureForRun
  rcases configureFromSettings_cases s with ⟨s', hs'⟩ | ⟨ps, hps⟩
  · rw [hs']
    exact ⟨_, rfl⟩
  · obtain ⟨s', hs'⟩ := configure_toUnchecked s Settings.standard
    rw [hps]
    dsimp only
    rw [hs']
    exact ⟨_, rfl⟩

/-! ## 2. Runs in a session -/

/-- What a run shows, from its input alone. -/
def outcomeOf (input : List Char) : Outcome :=
  .exited (exitCode (Console.run input).value) (Console.run input).written

/-- A run shows the same in every state. -/
theorem outcome_run (s : State) (input : List Char) :
    (s.run input).2.outcome = outcomeOf input := by
  obtain ⟨r, hr⟩ := configureForRun_ok s
  rw [State.run, hr, outcomeOf]

theorem exitCode_eq_exitDone_iff (v : Option Evaluation) :
    exitCode v = exitDone ↔ v.isSome = true := by
  cases v <;> simp [exitCode, exitDone, exitAborted]

theorem exitCode_eq_exitAborted_iff (v : Option Evaluation) :
    exitCode v = exitAborted ↔ ¬ v.isSome = true := by
  cases v <;> simp [exitCode, exitDone, exitAborted]

/-- A run after any history of a session. It comes to its end, and shows
what a run on the same input shows in a session that was just begun with
no environment. Its output is that of the calculation alone, and its exit
code says whether the input held three accepted tokens. -/
theorem run_isolated (environment : Settings.Environment) (clock clock' : Time)
    (history : List Step) (input : List Char) :
    let outcome := (step (after (State.initial environment clock) history) (.run input)).2.outcome
    outcome = (step (State.initial [] clock') (.run input)).2.outcome ∧
    ∃ code, outcome = .exited code (Console.run input).written ∧
      (code = 0 ↔ 3 ≤ (Text.tokens input).countP Console.isAccepted) ∧
      (code = 1 ↔ (Text.tokens input).countP Console.isAccepted < 3) := by
  dsimp only [step]
  rw [outcome_run, outcome_run]
  refine ⟨rfl, exitCode (Console.run input).value, rfl, ?_, ?_⟩
  · rw [← Console.isSome_value_run_iff]
    exact exitCode_eq_exitDone_iff _
  · rw [← Nat.not_le, ← Console.isSome_value_run_iff]
    exact exitCode_eq_exitAborted_iff _

end Quadratic.Session
