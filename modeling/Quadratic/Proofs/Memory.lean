/-
Quadratic.Proofs.Memory — what one step does to the settings that a session
remembers.

Settings are evaluated by several kinds of step, and by some of them only
while the logger is not configured. Only an evaluation that succeeds leaves
something behind, and then no other takes place until the session forgets.
Settings that were shown before are told from equal ones by the number of
their evaluation, and the numbers only grow.

* `Asks`, `Evaluates` — the steps that need settings, and those among them
  that find valid ones in the environment.
* `MemoryStep` — what a step does to the memory (`memoryStep`).
* `MemoryStep.remembered_of_some`, `MemoryStep.isNumbered`,
  `MemoryStep.stillShown` — what a step keeps.
* `outcome_showSettings`, `same_iff` — what is shown.
-/
import Quadratic.Proofs.Delivery

namespace Quadratic.Session

/-! ## 1. Evaluations -/

/-- A step that needs the settings of the session. A configuration and a
run do as long as the logger is not configured. -/
def Asks (s : State) : Step → Prop
  | .showSettings => True
  | .configure none | .run _ => s.logger.configured = false
  | _ => False

/-- A step needs settings, and those of the environment are valid. Whether
any are remembered is left open. -/
structure Evaluates (s : State) (t : Step) (settings : Settings) : Prop where
  asks : Asks s t
  ofEnvironment_eq : Settings.ofEnvironment s.environment = .ok settings

theorem not_evaluates_of_error {s : State} {ps : List Settings.Problem}
    (henv : Settings.ofEnvironment s.environment = .error ps) (t : Step) (settings : Settings) :
    ¬ Evaluates s t settings := by
  intro h
  have hsettings := h.ofEnvironment_eq
  rw [henv] at hsettings
  cases hsettings

/-- The three cases of `State.settings`. -/
theorem settings_cases (s : State) :
    (∃ r, s.remembered = some r ∧ s.settings = .ok (r, s)) ∨
      (∃ settings, s.remembered = none ∧ Settings.ofEnvironment s.environment = .ok settings ∧
        s.settings = .ok (⟨s.evaluations, settings⟩,
          { s with remembered := some ⟨s.evaluations, settings⟩,
                   evaluations := s.evaluations + 1 })) ∨
      ∃ ps, s.remembered = none ∧ Settings.ofEnvironment s.environment = .error ps ∧
        s.settings = .error ps := by
  unfold State.settings
  cases hremembered : s.remembered with
  | some r => exact .inl ⟨r, rfl, rfl⟩
  | none =>
    cases hsettings : Settings.ofEnvironment s.environment with
    | ok settings => exact .inr (.inl ⟨settings, rfl, rfl, rfl⟩)
    | error ps => exact .inr (.inr ⟨ps, rfl, rfl, rfl⟩)

/-! ## 2. One step -/

/-- The part of a state that has to do with settings. -/
structure Memory where
  remembered : Option Remembered
  evaluations : Nat
  lastShown : Option Nat

def State.memory (s : State) : Memory := ⟨s.remembered, s.evaluations, s.lastShown⟩

/-- The number of the settings that were shown last, after a step that came
to settings of number `n`. -/
def lastShownAfter (n : Nat) (shown : Option Nat) : Step → Option Nat
  | .showSettings => some n
  | _ => shown

theorem lastShownAfter_of_ne {t : Step} (ht : t ≠ .showSettings) (n : Nat) (shown : Option Nat) :
    lastShownAfter n shown t = shown := by
  cases t with
  | showSettings => exact absurd rfl ht
  | _ => rfl

/-- What a step does to the memory. -/
inductive MemoryStep (s : State) : Step → Memory → Prop
  | forgotten : MemoryStep s .forgetSettings ⟨none, s.evaluations, s.lastShown⟩
  | evaluated {t settings} (hnone : s.remembered = none) (h : Evaluates s t settings) :
      MemoryStep s t ⟨some ⟨s.evaluations, settings⟩, s.evaluations + 1,
        lastShownAfter s.evaluations s.lastShown t⟩
  | kept {t r} (hsome : s.remembered = some r) (hforget : t ≠ .forgetSettings) :
      MemoryStep s t ⟨some r, s.evaluations, lastShownAfter r.number s.lastShown t⟩
  | unevaluated {t} (hnone : s.remembered = none) (hforget : t ≠ .forgetSettings)
      (h : ∀ settings, ¬ Evaluates s t settings) :
      MemoryStep s t ⟨none, s.evaluations, s.lastShown⟩

section

variable {s s' : State} {t : Step}

/-- A step that needs no settings leaves the memory alone, unless it makes
the session forget. -/
theorem MemoryStep.of_not_asks (hasks : ¬ Asks s t) (hforget : t ≠ .forgetSettings)
    (hmemory : s'.memory = s.memory) : MemoryStep s t s'.memory := by
  have hshow : t ≠ .showSettings := by
    rintro rfl
    exact hasks trivial
  rw [hmemory, State.memory]
  cases hremembered : s.remembered with
  | some r =>
    have h : MemoryStep s t _ := .kept hremembered hforget
    rwa [lastShownAfter_of_ne hshow] at h
  | none => exact .unevaluated hremembered hforget fun settings h => hasks h.asks

/-- A step that needs settings, and leaves behind what their evaluation left
behind. -/
theorem MemoryStep.of_asks (hasks : Asks s t) (hshow : t ≠ .showSettings)
    (hok : ∀ r s₁, s.settings = .ok (r, s₁) → s'.memory = s₁.memory)
    (herror : ∀ ps, s.settings = .error ps → s'.memory = s.memory) :
    MemoryStep s t s'.memory := by
  have hforget : t ≠ .forgetSettings := by
    rintro rfl
    exact hasks
  rcases settings_cases s with ⟨r, hsome, hr⟩ | ⟨settings, hnone, henv, hr⟩ | ⟨ps, hnone, henv, hr⟩
  · have h : MemoryStep s t _ := .kept hsome hforget
    rw [lastShownAfter_of_ne hshow, ← hsome] at h
    rw [hok _ _ hr]
    exact h
  · have h : MemoryStep s t _ := .evaluated hnone ⟨hasks, henv⟩
    rw [lastShownAfter_of_ne hshow] at h
    rw [hok _ _ hr]
    exact h
  · have h : MemoryStep s t _ := .unevaluated hnone hforget (not_evaluates_of_error henv t)
    rw [← hnone] at h
    rw [herror ps hr]
    exact h

theorem memory_configure {u : Settings.Unchecked} (h : s.configure u = .ok s') :
    s'.memory = s.memory := by
  unfold State.configure at h
  split at h
  · cases h
    rfl
  · cases hthreshold : thresholdOf u.logLevel with
    | error e =>
      rw [hthreshold] at h
      cases h
    | ok threshold =>
      rw [hthreshold] at h
      cases h
      rfl

/-- What is left of a configuration with settings of its own. -/
theorem memory_afterConfiguration {r : Except Failure State}
    (h : ∀ s', r = .ok s' → s'.memory = s.memory) : (afterConfiguration s r).1.memory = s.memory := by
  cases r with
  | error e => rfl
  | ok s' => exact h s' rfl

end

theorem memoryStep_configureFromSettings (s : State) :
    MemoryStep s (.configure none) (afterConfiguration s s.configureFromSettings).1.memory := by
  unfold State.configureFromSettings
  cases hconfigured : s.logger.configured with
  | true =>
    have hasks : ¬ Asks s (.configure none) := ne_false_of_eq_true hconfigured
    exact .of_not_asks hasks Step.noConfusion rfl
  | false =>
    rw [if_neg Bool.false_ne_true]
    refine .of_asks hconfigured Step.noConfusion (fun r s₁ hsettings => ?_) (fun ps hsettings => ?_)
    · obtain ⟨s₂, hs₂⟩ := configure_toUnchecked s₁ r.settings
      rw [hsettings]
      dsimp only
      rw [hs₂]
      exact memory_configure hs₂
    · rw [hsettings]
      rfl

theorem memoryStep_run (s : State) (input : List Char) :
    MemoryStep s (.run input) (s.run input).1.memory := by
  obtain ⟨⟨s', warnings⟩, hr⟩ := configureForRun_ok s
  have hs' : (s.run input).1 = s' := by rw [State.run, hr]
  rw [hs']
  cases runConfiguration hr with
  | kept hconfigured =>
    have hasks : ¬ Asks s (.run input) := ne_false_of_eq_true hconfigured
    exact .of_not_asks hasks Step.noConfusion rfl
  | @settings r s₁ _ hconfigured hsettings hconfigure =>
    refine .of_asks hconfigured Step.noConfusion (fun r' s₁' h => ?_) (fun ps h => ?_)
    · rw [hsettings] at h
      cases h
      exact memory_configure hconfigure
    · rw [hsettings] at h
      cases h
  | @standard ps _ hconfigured hsettings hconfigure =>
    refine .of_asks hconfigured Step.noConfusion (fun r s₁ h => ?_) (fun ps' h => ?_)
    · rw [hsettings] at h
      cases h
    · exact memory_configure hconfigure

/-- What a step does to the memory. -/
theorem memoryStep (s : State) (t : Step) : MemoryStep s t (step s t).1.memory := by
  cases t with
  | environment changes =>
    refine .of_not_asks id Step.noConfusion ?_
    rw [step]
    unfold State.changeEnvironment
    split <;> rfl
  | showSettings =>
    rw [step]
    rcases settings_cases s with ⟨r, hsome, hr⟩ | ⟨settings, hnone, henv, hr⟩ | ⟨ps, hnone, henv, hr⟩
    · have h : MemoryStep s .showSettings _ := .kept hsome Step.noConfusion
      rw [← hsome] at h
      rw [hr]
      exact h
    · rw [hr]
      exact .evaluated hnone ⟨trivial, henv⟩
    · have h : MemoryStep s .showSettings _ :=
        .unevaluated hnone Step.noConfusion (not_evaluates_of_error henv _)
      rw [← hnone] at h
      rw [hr]
      exact h
  | forgetSettings => exact .forgotten
  | evaluateSettings keywords =>
    refine .of_not_asks id Step.noConfusion ?_
    rw [step]
    split <;> rfl
  | configure keywords =>
    cases keywords with
    | none => exact memoryStep_configureFromSettings s
    | some keywords =>
      refine .of_not_asks id Step.noConfusion (memory_afterConfiguration fun s' h => ?_)
      obtain ⟨u, hu⟩ := exists_of_configureFromKeywords h
      exact memory_configure hu
  | configureUnchecked keywords =>
    refine .of_not_asks id Step.noConfusion (memory_afterConfiguration fun s' h => ?_)
    obtain ⟨u, hu⟩ := exists_of_configureUnchecked h
    exact memory_configure hu
  | reset => exact .of_not_asks id Step.noConfusion rfl
  | replaceErrorStream => exact .of_not_asks id Step.noConfusion rfl
  | log name level origin template arguments =>
    refine .of_not_asks id Step.noConfusion ?_
    rw [step_log, ask_eq]
    rfl
  | run input => exact memoryStep_run s input

/-! ## 3. What a step keeps -/

/-- The numbers of evaluations that a memory holds were given out already. -/
structure Memory.IsNumbered (m : Memory) : Prop where
  remembered_lt : ∀ r, m.remembered = some r → r.number < m.evaluations
  lastShown_lt : ∀ n, m.lastShown = some n → n < m.evaluations

/-- The settings that were shown last are the ones that are remembered. -/
def Memory.StillShown (m : Memory) : Prop :=
  ∃ r, m.remembered = some r ∧ m.lastShown = some r.number

theorem lt_of_lastShownAfter {n bound k : Nat} {shown : Option Nat} {t : Step} (hn : n < bound)
    (hshown : ∀ k, shown = some k → k < bound) (h : lastShownAfter n shown t = some k) :
    k < bound := by
  cases t with
  | showSettings =>
    cases h
    exact hn
  | _ => exact hshown k h

section

variable {s : State} {t : Step} {m : Memory} (hstep : MemoryStep s t m)

include hstep

/-- What is remembered stays the same until it is forgotten. -/
theorem MemoryStep.remembered_of_some {r : Remembered} (hsome : s.remembered = some r)
    (hforget : t ≠ .forgetSettings) : m.remembered = some r := by
  cases hstep with
  | forgotten => exact absurd rfl hforget
  | evaluated hnone | unevaluated hnone => cases hnone.symm.trans hsome
  | kept hsome' => exact hsome'.symm.trans hsome

/-- If nothing is remembered, an evaluation that succeeds is. -/
theorem MemoryStep.remembered_of_evaluates {settings : Settings} (hnone : s.remembered = none)
    (h : Evaluates s t settings) : m.remembered = some ⟨s.evaluations, settings⟩ := by
  cases hstep with
  | forgotten => exact h.asks.elim
  | evaluated hnone' h' =>
    obtain rfl := Except.ok.inj (h'.ofEnvironment_eq.symm.trans h.ofEnvironment_eq)
    rfl
  | kept hsome => cases hnone.symm.trans hsome
  | unevaluated _ _ hall => exact absurd h (hall settings)

theorem MemoryStep.isNumbered (h : s.memory.IsNumbered) : m.IsNumbered := by
  cases hstep with
  | forgotten | unevaluated => exact ⟨by rintro r ⟨⟩, h.lastShown_lt⟩
  | evaluated =>
    refine ⟨?_, fun n hn => ?_⟩
    · rintro r ⟨⟩
      exact Nat.lt_succ_self _
    · exact lt_of_lastShownAfter (Nat.lt_succ_self _)
        (fun k hk => Nat.lt_succ_of_lt (h.lastShown_lt k hk)) hn
  | kept hsome =>
    refine ⟨?_, fun n hn => ?_⟩
    · rintro r ⟨⟩
      exact h.remembered_lt _ hsome
    · exact lt_of_lastShownAfter (h.remembered_lt _ hsome) h.lastShown_lt hn

/-- Settings that were shown last stay so until they are forgotten. -/
theorem MemoryStep.stillShown (h : s.memory.StillShown) (ht : t ≠ .forgetSettings) :
    m.StillShown := by
  obtain ⟨r, hsome, hshown⟩ := h
  refine ⟨r, hstep.remembered_of_some hsome ht, ?_⟩
  cases hstep with
  | forgotten => exact absurd rfl ht
  | evaluated hnone | unevaluated hnone => cases hnone.symm.trans hsome
  | kept hsome' =>
    obtain rfl := Option.some.inj (hsome'.symm.trans hsome)
    cases t with
    | showSettings => rfl
    | _ => exact hshown

/-- Before a step that shows nothing, they were the ones shown last already:
a number that was given out is not the number of an evaluation in this step. -/
theorem MemoryStep.stillShown_before (hnumbered : s.memory.IsNumbered) (h : m.StillShown)
    (hshow : t ≠ .showSettings) : s.memory.StillShown ∧ t ≠ .forgetSettings := by
  obtain ⟨r, hr, hshown⟩ := h
  cases hstep with
  | forgotten | unevaluated => cases hr
  | evaluated =>
    cases hr
    rw [lastShownAfter_of_ne hshow] at hshown
    exact absurd (hnumbered.lastShown_lt _ hshown) (Nat.lt_irrefl _)
  | kept hsome hforget =>
    cases hr
    rw [lastShownAfter_of_ne hshow] at hshown
    exact ⟨⟨r, hsome, hshown⟩, hforget⟩

end

/-- A step that evaluates leaves something to remember. -/
theorem remembered_of_evaluates {s : State} {t : Step} {settings : Settings}
    (h : Evaluates s t settings) : ∃ r, (step s t).1.remembered = some r := by
  have hforget : t ≠ .forgetSettings := by
    rintro rfl
    exact h.asks
  cases hremembered : s.remembered with
  | some r => exact ⟨r, (memoryStep s t).remembered_of_some hremembered hforget⟩
  | none => exact ⟨_, (memoryStep s t).remembered_of_evaluates hremembered h⟩

/-! ## 4. Settings that are shown -/

/-- A state in which settings can be shown. -/
def Shows (s : State) : Prop :=
  ∃ settings same, (step s .showSettings).2.outcome = .shown settings same

/-- What a step that shows settings answers: what is remembered afterwards,
or what is wrong with the environment. -/
theorem outcome_showSettings (s : State) :
    (∃ r same, (step s .showSettings).1.remembered = some r ∧
      (step s .showSettings).2.outcome = .shown r.settings same) ∨
    ∃ ps, s.remembered = none ∧ Settings.ofEnvironment s.environment = .error ps ∧
      step s .showSettings = (s, ⟨.failed (.settings (.problems ps)), []⟩) := by
  rw [step]
  rcases settings_cases s with ⟨r, hsome, hr⟩ | ⟨settings, hnone, henv, hr⟩ | ⟨ps, hnone, henv, hr⟩
  · rw [hr]
    exact .inl ⟨r, _, hsome, rfl⟩
  · rw [hr]
    exact .inl ⟨_, _, rfl, rfl⟩
  · rw [hr]
    exact .inr ⟨ps, hnone, henv, rfl⟩

/-- Settings are shown when there are any to remember. -/
theorem shows_iff (s : State) :
    Shows s ↔ ∃ r, (step s .showSettings).1.remembered = some r := by
  rcases outcome_showSettings s with ⟨r, same, hr, houtcome⟩ | ⟨ps, hnone, henv, hanswer⟩
  · exact iff_of_true ⟨_, same, houtcome⟩ ⟨r, hr⟩
  · rw [Shows, hanswer]
    refine iff_of_false ?_ ?_
    · rintro ⟨settings, same, h⟩
      cases h
    · rintro ⟨r, hr⟩
      rw [hnone] at hr
      cases hr

/-- Settings that are shown are the ones shown last. -/
theorem stillShown_of_shows {s : State} (h : Shows s) :
    (step s .showSettings).1.memory.StillShown := by
  obtain ⟨r, hr⟩ := (shows_iff s).mp h
  have hstep := memoryStep s .showSettings
  have hremembered : (step s .showSettings).1.memory.remembered = some r := hr
  generalize (step s .showSettings).1.memory = m at hremembered hstep ⊢
  refine ⟨r, hremembered, ?_⟩
  cases hstep with
  | unevaluated => cases hremembered
  | evaluated | kept =>
    cases hremembered
    rfl

/-- Settings are shown as the same ones exactly if they are the ones shown
last. -/
theorem same_iff {s : State} (hs : s.memory.IsNumbered) {settings : Settings} {same : Bool}
    (h : (step s .showSettings).2.outcome = .shown settings same) :
    same = true ↔ s.memory.StillShown := by
  rw [step] at h
  rcases settings_cases s with ⟨r, hsome, hr⟩ | ⟨u, hnone, henv, hr⟩ | ⟨ps, hnone, henv, hr⟩
  · rw [hr] at h
    cases h
    refine decide_eq_true_iff.trans ⟨fun hshown => ⟨r, hsome, hshown⟩, ?_⟩
    rintro ⟨r', hsome', hshown⟩
    obtain rfl := Option.some.inj (hsome.symm.trans hsome')
    exact hshown
  · rw [hr] at h
    cases h
    refine iff_of_false (fun hsame => ?_) ?_
    · exact Nat.lt_irrefl _ (hs.lastShown_lt _ (of_decide_eq_true hsame))
    · rintro ⟨r, hr, -⟩
      cases hnone.symm.trans hr
  · rw [hr] at h
    cases h

end Quadratic.Session
