/-
Quadratic.Proofs.Remembering — which settings a session remembers, after
any history.

What a session remembers comes from one place of its history at most, the
FIRST EVALUATION: the first step that needed settings and found a valid
environment, counted from the last step that made the session forget, or
from the start. The settings that it shows are the same as those that it
showed LAST exactly if nothing was forgotten in between.

* `FirstEvaluation`, `LastShown` — places of a history, with the proofs that
  they are the ones described above.
* `remembered_eq_none_iff`, `FirstEvaluation.remembered_after` — what is
  remembered.
* `stillShown_iff` — when the settings are the same as before.
* `settings_of_first_evaluation` — all of it, for every history of a session.
-/
import Quadratic.Proofs.Memory

namespace Quadratic.Session

open Log (Time)

/-! ## 1. First evaluations -/

/-- What is remembered stays the same until it is forgotten. -/
theorem remembered_after_of_some {s : State} {r : Remembered} (hsome : s.remembered = some r)
    {ts : List Step} (hts : .forgetSettings ∉ ts) : (after s ts).remembered = some r := by
  induction ts using List.reverseRecOn with
  | nil => exact hsome
  | append_singleton ts t ih =>
    have hbefore := ih fun h => hts (List.mem_append_left _ h)
    have ht : t ≠ .forgetSettings := by
      rintro rfl
      exact hts (by simp)
    rw [after_concat]
    exact (memoryStep (after s ts) t).remembered_of_some hbefore ht

/-- A place of a history is one of a longer history. -/
theorem history_concat {before since history : List Step} {step : Step}
    (h : before ++ step :: since = history) (t : Step) :
    before ++ step :: (since ++ [t]) = history ++ [t] := by
  rw [← h, List.append_assoc, List.cons_append]

theorem not_forgotten_concat {since : List Step} (h : .forgetSettings ∉ since) {t : Step}
    (ht : t ≠ .forgetSettings) : .forgetSettings ∉ since ++ [t] := by
  rw [List.mem_append, not_or, List.mem_singleton]
  exact ⟨h, ht.symm⟩

/-- Since the last forgetting, or since the start, no step that needed
settings found valid ones. -/
def Unevaluated (start : State) (history : List Step) : Prop :=
  ∀ before t since, before ++ t :: since = history → .forgetSettings ∉ since →
    ∀ settings, ¬ Evaluates (after start before) t settings

/-- The place of a history at which settings were evaluated for the first
time since they were last forgotten, or since the start. -/
structure FirstEvaluation (start : State) (history : List Step) where
  before : List Step
  step : Step
  since : List Step
  settings : Settings
  history_eq : before ++ step :: since = history
  evaluates : Evaluates (after start before) step settings
  not_forgotten : .forgetSettings ∉ since
  first : Unevaluated start before

theorem unevaluated_of_remembered {start : State} {history : List Step}
    (hnone : (after start history).remembered = none) : Unevaluated start history := by
  rintro before t since rfl hsince settings h
  obtain ⟨r, hr⟩ := remembered_of_evaluates h
  have hlater := remembered_after_of_some hr hsince
  rw [after_append, after, List.foldl_cons, ← after, hlater] at hnone
  cases hnone

namespace FirstEvaluation

variable {start : State} {history : List Step}

/-- A first evaluation is still one after a step that does not make the
session forget. -/
theorem nonempty_concat (e : FirstEvaluation start history) {t : Step} (ht : t ≠ .forgetSettings) :
    Nonempty (FirstEvaluation start (history ++ [t])) :=
  ⟨{ e with
     since := e.since ++ [t]
     history_eq := history_concat e.history_eq t
     not_forgotten := not_forgotten_concat e.not_forgotten ht }⟩

/-- A step that evaluates when nothing is remembered is a first evaluation. -/
theorem nonempty_last {t : Step} {settings : Settings}
    (hnone : (after start history).remembered = none)
    (h : Evaluates (after start history) t settings) :
    Nonempty (FirstEvaluation start (history ++ [t])) :=
  ⟨{ before := history
     step := t
     since := []
     settings := settings
     history_eq := rfl
     evaluates := h
     not_forgotten := List.not_mem_nil
     first := unevaluated_of_remembered hnone }⟩

end FirstEvaluation

/-- What is remembered was evaluated at some place. -/
theorem exists_firstEvaluation {start : State} (hstart : start.remembered = none)
    {history : List Step} {r : Remembered} (h : (after start history).remembered = some r) :
    Nonempty (FirstEvaluation start history) := by
  induction history using List.reverseRecOn generalizing r with
  | nil =>
    rw [after, List.foldl_nil, hstart] at h
    cases h
  | append_singleton ts t ih =>
    rw [after_concat] at h
    have hstep := memoryStep (after start ts) t
    have hr : (step (after start ts) t).1.memory.remembered = some r := h
    generalize (step (after start ts) t).1.memory = m at hstep hr
    cases hstep with
    | forgotten | unevaluated => cases hr
    | evaluated hnone heval => exact FirstEvaluation.nonempty_last hnone heval
    | kept hsome hforget =>
      obtain ⟨e⟩ := ih hsome
      exact e.nonempty_concat hforget

/-- Nothing is remembered exactly if nothing was evaluated since the last
forgetting. -/
theorem remembered_eq_none_iff {start : State} (hstart : start.remembered = none)
    (history : List Step) :
    (after start history).remembered = none ↔ Unevaluated start history := by
  refine ⟨unevaluated_of_remembered, fun h => ?_⟩
  cases hremembered : (after start history).remembered with
  | none => rfl
  | some r =>
    obtain ⟨e⟩ := exists_firstEvaluation hstart hremembered
    exact absurd e.evaluates (h _ _ _ e.history_eq e.not_forgotten _)

/-- The settings of a first evaluation are remembered, whatever happens
later, until they are forgotten. -/
theorem FirstEvaluation.remembered_after {start : State} {history : List Step}
    (hstart : start.remembered = none) (e : FirstEvaluation start history) {later : List Step}
    (hlater : .forgetSettings ∉ later) :
    ∃ r, (after (after start history) later).remembered = some r ∧ r.settings = e.settings := by
  have hnone := (remembered_eq_none_iff hstart e.before).mpr e.first
  have hsome := (memoryStep _ e.step).remembered_of_evaluates hnone e.evaluates
  have hsince : .forgetSettings ∉ e.since ++ later := by
    rw [List.mem_append, not_or]
    exact ⟨e.not_forgotten, hlater⟩
  have hhistory : after (after start history) later =
      after (Session.step (after start e.before) e.step).1 (e.since ++ later) := by
    have h := congrArg (after start) e.history_eq
    rw [← h, after_append, after_append]
    rfl
  rw [hhistory]
  exact ⟨_, remembered_after_of_some hsome hsince, rfl⟩

/-! ## 2. Settings shown before -/

theorem isNumbered_after {start : State} (hstart : start.memory.IsNumbered) (ts : List Step) :
    (after start ts).memory.IsNumbered := by
  induction ts using List.reverseRecOn with
  | nil => exact hstart
  | append_singleton ts t ih =>
    rw [after_concat]
    exact (memoryStep _ t).isNumbered ih

theorem stillShown_after {s : State} (h : s.memory.StillShown) {ts : List Step}
    (hts : .forgetSettings ∉ ts) : (after s ts).memory.StillShown := by
  induction ts using List.reverseRecOn with
  | nil => exact h
  | append_singleton ts t ih =>
    rw [List.mem_append, not_or, List.mem_singleton] at hts
    rw [after_concat]
    exact (memoryStep _ t).stillShown (ih hts.1) (Ne.symm hts.2)

/-- The last place of a history at which settings were shown. -/
structure LastShown (start : State) (history : List Step) where
  before : List Step
  since : List Step
  history_eq : before ++ .showSettings :: since = history
  shows : Shows (after start before)
  last : ∀ earlier later, earlier ++ .showSettings :: later = since →
    ¬ Shows (after start (before ++ .showSettings :: earlier))

namespace LastShown

variable {start : State} {history : List Step}

/-- The last place is still the last one after a step that shows nothing. -/
def concat (l : LastShown start history) {t : Step} (ht : t ≠ .showSettings) :
    LastShown start (history ++ [t]) :=
  { l with
    since := l.since ++ [t]
    history_eq := history_concat l.history_eq t
    last := by
      intro earlier later h
      rcases List.eq_nil_or_concat later with rfl | ⟨later, u, rfl⟩
      · exact absurd (List.append_inj_right' h rfl) fun h => ht (List.cons.inj h).1.symm
      · rw [List.concat_eq_append, ← List.cons_append, ← List.append_assoc] at h
        exact l.last earlier later (List.append_inj_left' h rfl) }

/-- A step that shows settings is the last place. -/
def ofShows (h : Shows (after start history)) : LastShown start (history ++ [.showSettings]) where
  before := history
  since := []
  history_eq := rfl
  shows := h
  last := by simp

end LastShown

/-- The settings that were shown last are still remembered exactly if nothing
was forgotten since. -/
theorem stillShown_iff {start : State} (hnone : start.remembered = none)
    (hstart : start.memory.IsNumbered) (history : List Step) :
    (after start history).memory.StillShown ↔
      ∃ l : LastShown start history, .forgetSettings ∉ l.since := by
  constructor
  · intro h
    induction history using List.reverseRecOn with
    | nil =>
      obtain ⟨r, hr, -⟩ := h
      cases hnone.symm.trans hr
    | append_singleton ts t ih =>
      rw [after_concat] at h
      by_cases hshow : t = .showSettings
      · obtain ⟨r, hr, -⟩ := h
        subst hshow
        exact ⟨.ofShows ((shows_iff _).mpr ⟨r, hr⟩), List.not_mem_nil⟩
      · obtain ⟨hbefore, hforget⟩ :=
          (memoryStep _ t).stillShown_before (isNumbered_after hstart ts) h hshow
        obtain ⟨l, hl⟩ := ih hbefore
        exact ⟨l.concat hshow, not_forgotten_concat hl hforget⟩
  · rintro ⟨l, hl⟩
    have hhistory := congrArg (after start) l.history_eq
    rw [← hhistory, after_append]
    exact stillShown_after (stillShown_of_shows l.shows) hl

/-! ## 3. After any history -/

/-- The settings of a session after any history. Either there is a first
evaluation: then its settings are remembered, whatever happens later, until
they are forgotten. Or there is none, and nothing is remembered. A step
that shows the settings may be the first evaluation itself. If there is one
by then, its settings are shown, and they are the same ones as before
exactly if settings were shown before and nothing was forgotten since that
was done for the last time. Otherwise the environment is not valid, its
problems are shown, and the state stays as it is. -/
theorem settings_of_first_evaluation (environment : Settings.Environment) (clock : Time)
    (history : List Step) :
    let start := State.initial environment clock
    let s := after start history
    let answer := step s .showSettings
    ((Nonempty (FirstEvaluation start history) ∧
        ∀ (e : FirstEvaluation start history) (later : List Step), .forgetSettings ∉ later →
          ∃ r, (after s later).remembered = some r ∧ r.settings = e.settings) ∨
      (IsEmpty (FirstEvaluation start history) ∧ s.remembered = none)) ∧
    ((Nonempty (FirstEvaluation start (history ++ [.showSettings])) ∧
        ∀ e : FirstEvaluation start (history ++ [.showSettings]),
          ∃ same, answer.2.outcome = .shown e.settings same ∧
            (same = true ↔ ∃ l : LastShown start history, .forgetSettings ∉ l.since)) ∨
      (IsEmpty (FirstEvaluation start (history ++ [.showSettings])) ∧
        ∃ ps, Settings.ofEnvironment s.environment = .error ps ∧
          answer.2.outcome = .failed (.settings (.problems ps)) ∧ answer.1 = s)) := by
  intro start s answer
  have hnone : start.remembered = none := rfl
  have hstart : start.memory.IsNumbered := ⟨by rintro r ⟨⟩, by rintro n ⟨⟩⟩
  have hnumbered : s.memory.IsNumbered := isNumbered_after hstart history
  have hafter : after start (history ++ [.showSettings]) = answer.1 := after_concat ..
  constructor
  · cases hremembered : s.remembered with
    | some r =>
      exact .inl ⟨exists_firstEvaluation hnone hremembered, fun e _ hlater =>
        e.remembered_after hnone hlater⟩
    | none =>
      refine .inr ⟨⟨fun e => ?_⟩, rfl⟩
      obtain ⟨r, hr, -⟩ := e.remembered_after hnone List.not_mem_nil
      rw [after, List.foldl_nil, hremembered] at hr
      cases hr
  · rcases outcome_showSettings s with ⟨r, same, hr, houtcome⟩ | ⟨ps, hremembered, henv, hanswer⟩
    · refine .inl ⟨exists_firstEvaluation hnone (hafter ▸ hr), fun e => ⟨same, ?_, ?_⟩⟩
      · obtain ⟨r', hr', hsettings⟩ := e.remembered_after hnone List.not_mem_nil
        rw [hafter] at hr'
        obtain rfl := Option.some.inj (hr.symm.trans hr')
        rw [← hsettings]
        exact houtcome
      · exact (same_iff hnumbered houtcome).trans (stillShown_iff hnone hstart history)
    · refine .inr ⟨⟨fun e => ?_⟩, ps, henv, congrArg (·.2.outcome) hanswer,
        congrArg Prod.fst hanswer⟩
      obtain ⟨r, hr, -⟩ := e.remembered_after hnone List.not_mem_nil
      rw [hafter] at hr
      have hs : answer.1 = s := congrArg Prod.fst hanswer
      rw [after, List.foldl_nil, hs, hremembered] at hr
      cases hr

-- An evaluation that fails, one that does not, and a reset after which the
-- environment is no longer looked at.
example :
    (after (State.initial [("DISCRIMINANT_LOG_LEVEL", "LOUD")] ⟨0, 0⟩)
      [.configure none, .environment [("DISCRIMINANT_LOG_LEVEL", some "INFO")], .run [],
       .environment [("DISCRIMINANT_LOG_LEVEL", some "DEBUG")], .reset,
       .showSettings]).remembered = some ⟨0, "discriminant-calculator", .info, .text⟩ := by
  decide +kernel

end Quadratic.Session
