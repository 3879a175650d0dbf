/-
Quadratic.Proofs.Hierarchy — which loggers are parts of the calculator's,
and what they have decided, after any history of a session.

Most loggers have their place for good. One that is named `src`, or `src.`
and then something that does not begin with another dot, is a part of the
calculator's logger whichever loggers exist; one whose name does not begin
so is none. Only where two dots follow each other right after `src` does it
matter which loggers exist.

A logger decides only once about a severity. What it keeps in mind is what
it would decide anew, as long as its place is the same: a decision is
forgotten when a threshold is set.

* `IsPart`, `IsOutside` — the names that have their place for good
  (`isWithin_of_isPart`, `isWithin_of_isOutside`).
* `rest_step` — what a step does to the hierarchy and the clock.
* `IsConsistent` — what is kept in mind is what would be decided anew, after
  any history (`isConsistent_after`).
-/
import Quadratic.Proofs.Installation

namespace Quadratic.Session

/-! ## 1. Names -/

/-- The name of the calculator's logger, or one that is below it whichever
loggers exist. -/
def IsPart (name : String) : Prop :=
  name = "src" ∨ ∃ rest, name = "src." ++ rest ∧ rest.toList.head? ≠ some '.'

/-- A name that is not below that of the calculator's logger. -/
def IsOutside (name : String) : Prop := name ≠ "src" ∧ ∀ rest, name ≠ "src." ++ rest

/-- A name that has its place for good. -/
def IsSettled (name : String) : Prop := IsPart name ∨ IsOutside name

namespace Hierarchy

theorem reaches_cons {c : Char} (hc : c ≠ '.') (made : List String) (cs : List Char) :
    reaches made (c :: cs) = reaches made cs := by
  rw [reaches]
  rintro d ds rfl
  exact absurd rfl hc

/-- The search for parents comes to the calculator's logger if the rest of the
name does not begin with a dot: whatever exists on the way is below it, too.
The names are given from right to left. -/
theorem reaches_append {made : List String} (hmade : Logger.name ∈ made) :
    ∀ {cs : List Char}, cs.getLast? ≠ some '.' → reaches made (cs ++ ['.', 'c', 'r', 's']) = true
  | [], _ => by
    have hparent : String.ofList ['c', 'r', 's'].reverse = Logger.name := rfl
    rw [List.nil_append, reaches, hparent, if_pos hmade, decide_eq_true rfl, Bool.true_or]
  | [c], h => by
    have hc : c ≠ '.' := fun hc => h (congrArg some hc)
    rw [List.cons_append, reaches_cons hc]
    exact reaches_append hmade nofun
  | c :: d :: cs, h => by
    have hd : (d :: cs).getLast? ≠ some '.' := by rwa [List.getLast?_cons_cons] at h
    by_cases hc : c = '.'
    · have hcs : cs.getLast? ≠ some '.' := by
        cases cs with
        | nil => nofun
        | cons e es => rwa [List.getLast?_cons_cons] at hd
      have hnext := reaches_append hmade hd
      rw [List.cons_append] at hnext
      rw [hc, List.cons_append, List.cons_append, reaches, hnext, reaches_append hmade hcs]
      simp
    · rw [List.cons_append, reaches_cons hc]
      exact reaches_append hmade hd

/-- Only names that begin so come to the calculator's logger. -/
theorem isSuffix_of_reaches (made : List String) (cs : List Char) (h : reaches made cs = true) :
    ['.', 'c', 'r', 's'] <:+ cs := by
  fun_induction reaches made cs with
  | case1 => cases h
  | case2 c cs parent hmade ih =>
    rcases Bool.or_eq_true_iff.mp h with hparent | hnext
    · have hname : String.ofList (c :: cs).reverse = "src" := of_decide_eq_true hparent
      have hchars : (c :: cs).reverse = "src".toList := by rw [← hname, String.toList_ofList]
      have hcs : c :: cs = ['c', 'r', 's'] := by
        rw [← List.reverse_reverse (c :: cs), hchars]
        rfl
      exact hcs ▸ List.suffix_rfl
    · exact (ih hnext).trans (List.suffix_cons _ _)
  | case3 c cs parent hmade ih =>
    exact ((ih h).trans (List.suffix_cons _ _)).trans (List.suffix_cons _ _)
  | case4 c cs _ ih => exact (ih h).trans (List.suffix_cons _ _)

variable {h h' : Hierarchy} {name : String}

theorem isWithin_of_isPart (hmade : Logger.name ∈ h.made) (hname : IsPart name) :
    h.isWithin name = true := by
  rw [isWithin, Bool.or_eq_true_iff]
  rcases hname with rfl | ⟨rest, rfl, hrest⟩
  · exact .inl rfl
  · have hreverse : ("src." ++ rest).toList.reverse = rest.toList.reverse ++ ['.', 'c', 'r', 's'] := by
      rw [String.toList_append, List.reverse_append]
      rfl
    rw [hreverse]
    exact .inr (reaches_append hmade (by rwa [List.getLast?_reverse]))

theorem isWithin_of_isOutside (hname : IsOutside name) : h.isWithin name = false := by
  rw [isWithin, Bool.or_eq_false_iff, decide_eq_false_iff_not]
  refine ⟨hname.1, Bool.eq_false_iff.mpr fun hreaches => ?_⟩
  obtain ⟨cs, hcs⟩ := isSuffix_of_reaches h.made _ hreaches
  refine hname.2 (String.ofList cs.reverse) (String.toList_inj.mp ?_)
  have hrest : (String.ofList cs.reverse).toList = cs.reverse := String.toList_ofList
  rw [← List.reverse_reverse name.toList, ← hcs, List.reverse_append, String.toList_append, hrest]
  rfl

/-- A name that has its place for good has the same one in two hierarchies. -/
theorem isWithin_congr (hmade : Logger.name ∈ h.made) (hmade' : Logger.name ∈ h'.made)
    (hname : IsSettled name) : h.isWithin name = h'.isWithin name := by
  rcases hname with hpart | houtside
  · rw [isWithin_of_isPart hmade hpart, isWithin_of_isPart hmade' hpart]
  · rw [isWithin_of_isOutside houtside, isWithin_of_isOutside houtside]

theorem mem_made_ask (h : Hierarchy) (name other : String) (hname : name ∈ h.made) :
    name ∈ (h.ask other).made := by
  unfold ask
  split
  · exact hname
  · exact List.mem_cons_of_mem _ hname

@[simp] theorem decided_ask (h : Hierarchy) (name : String) : (h.ask name).decided = h.decided := by
  unfold ask
  split <;> rfl

@[simp] theorem decision?_ask (h : Hierarchy) (name other : String) (level : Int) :
    (h.ask other).decision? name level = h.decision? name level := by
  rw [decision?, decision?, decided_ask]

theorem decision?_decide (h : Hierarchy) (name other : String) (level level' : Int)
    (passes : Bool) : (h.decide other level' passes).decision? name level =
      if (other, level') = (name, level) then some passes else h.decision? name level := by
  rw [decision?, decide, List.find?_cons]
  by_cases hsame : (other, level') = (name, level)
  · simp [hsame]
  · simp [hsame, decision?]

end Hierarchy

/-! ## 2. One step -/

/-- What a configuration leaves behind that succeeds: a logger that is
configured, and the hierarchy and the clock as they were. -/
structure Configured (s s' : State) : Prop where
  configured : s'.logger.configured = true
  hierarchy_eq : s'.hierarchy = s.hierarchy
  clock_eq : s'.clock = s.clock

/-- Settings may be evaluated before. -/
theorem Configured.of_settings {s s₁ s' : State} {r : Remembered} (h : Configured s₁ s')
    (hsettings : s.settings = .ok (r, s₁)) : Configured s s' :=
  have ⟨_, _, hhierarchy, hclock⟩ := settings_frame hsettings
  ⟨h.configured, h.hierarchy_eq.trans hhierarchy, h.clock_eq.trans hclock⟩

theorem configured_configure {s s' : State} {u : Settings.Unchecked}
    (h : s.configure u = .ok s') : Configured s s' := by
  unfold State.configure at h
  split at h
  · rename_i hconfigured
    cases h
    exact ⟨hconfigured, rfl, rfl⟩
  · cases hthreshold : thresholdOf u.logLevel with
    | error e =>
      rw [hthreshold] at h
      cases h
    | ok threshold =>
      rw [hthreshold] at h
      cases h
      exact ⟨rfl, rfl, rfl⟩

theorem ok_of_mapError {α ε δ : Type} {f : ε → δ} {r : Except ε α} {a : α}
    (h : r.mapError f = .ok a) : r = .ok a := by
  cases r with
  | error e => cases h
  | ok b => exact congrArg Except.ok (Except.ok.inj h)

/-- A configuration with settings from keywords comes down to one with
settings. -/
theorem exists_of_configureFromKeywords {s s' : State} {keywords : List (String × Value)}
    (h : s.configureFromKeywords keywords = .ok s') : ∃ u, s.configure u = .ok s' := by
  unfold State.configureFromKeywords at h
  split at h
  · exact ⟨_, ok_of_mapError h⟩
  · cases h

theorem exists_of_configureUnchecked {s s' : State} {keywords : List (String × Value)}
    (h : s.configureUnchecked keywords = .ok s') : ∃ u, s.configure u = .ok s' := by
  unfold State.configureUnchecked at h
  split at h
  · exact ⟨_, ok_of_mapError h⟩
  · cases h

theorem configured_configureFromSettings {s s' : State} (h : s.configureFromSettings = .ok s') :
    Configured s s' := by
  unfold State.configureFromSettings at h
  split at h
  · rename_i hconfigured
    cases h
    exact ⟨hconfigured, rfl, rfl⟩
  · split at h
    · rename_i r s₁ hsettings
      exact (configured_configure (ok_of_mapError h)).of_settings hsettings
    · cases h

theorem configured_configureForRun {s s' : State} {warnings : List Emission}
    (h : s.configureForRun = .ok (s', warnings)) : Configured s s' := by
  cases runConfiguration h with
  | kept hconfigured => exact ⟨hconfigured, rfl, rfl⟩
  | settings _ hsettings hconfigure =>
    exact (configured_configure hconfigure).of_settings hsettings
  | standard _ _ hconfigure => exact configured_configure hconfigure

/-- After a run the logger is configured. -/
theorem configured_run (s : State) (input : List Char) :
    (s.run input).1.logger.configured = true := by
  obtain ⟨⟨s', warnings⟩, hrun⟩ := configureForRun_ok s
  have hs' : (s.run input).1 = s' := by rw [State.run, hrun]
  rw [hs']
  exact (configured_configureForRun hrun).configured

/-- What a step leaves of the hierarchy. -/
def hierarchyAfter (s : State) : Step → Hierarchy
  | .reset => s.hierarchy.forget
  | .log name level _ _ _ => (s.ask name level).hierarchy
  | _ => s.hierarchy

theorem rest_afterConfiguration {s : State} {r : Except Failure State}
    (h : ∀ s', r = .ok s' → Configured s s') :
    (afterConfiguration s r).1.hierarchy = s.hierarchy ∧
      (afterConfiguration s r).1.clock = s.clock := by
  cases r with
  | error e => exact ⟨rfl, rfl⟩
  | ok s' => exact ⟨(h s' rfl).hierarchy_eq, (h s' rfl).clock_eq⟩

/-- Only a reset and a call of a logger change the hierarchy, and the clock
stands still. -/
theorem rest_step (s : State) (t : Step) :
    (step s t).1.hierarchy = hierarchyAfter s t ∧ (step s t).1.clock = s.clock := by
  cases t with
  | environment changes =>
    rw [step]
    unfold State.changeEnvironment
    split <;> exact ⟨rfl, rfl⟩
  | showSettings =>
    rw [step]
    cases hsettings : s.settings with
    | error ps => exact ⟨rfl, rfl⟩
    | ok r => exact (settings_frame hsettings).2.2
  | forgetSettings | reset | replaceErrorStream => exact ⟨rfl, rfl⟩
  | evaluateSettings keywords =>
    rw [step]
    split <;> exact ⟨rfl, rfl⟩
  | configure keywords =>
    cases keywords with
    | none => exact rest_afterConfiguration fun s' h => configured_configureFromSettings h
    | some keywords =>
      refine rest_afterConfiguration fun s' h => ?_
      obtain ⟨u, hu⟩ := exists_of_configureFromKeywords h
      exact configured_configure hu
  | configureUnchecked keywords =>
    refine rest_afterConfiguration fun s' h => ?_
    obtain ⟨u, hu⟩ := exists_of_configureUnchecked h
    exact configured_configure hu
  | log name level origin template arguments =>
    rw [step_log]
    exact ⟨rfl, by rw [ask_eq]⟩
  | run input =>
    obtain ⟨r, hr⟩ := configureForRun_ok s
    have hconfigured := configured_configureForRun hr
    rw [step, State.run, hr]
    exact ⟨hconfigured.hierarchy_eq, hconfigured.clock_eq⟩

theorem clock_after (start : State) (ts : List Step) : (after start ts).clock = start.clock := by
  induction ts using List.reverseRecOn with
  | nil => rfl
  | append_singleton ts t ih => rw [after_concat, (rest_step _ t).2, ih]

/-! ## 3. Decisions -/

/-- What is kept in mind in a state is what would be decided anew by a logger
that has its place for good, and no logger passes a severity that is not
positive. -/
structure State.IsConsistent (s : State) : Prop where
  name_mem_made : Logger.name ∈ s.hierarchy.made
  decided_eq_nil : s.logger.configured = false → s.hierarchy.decided = []
  level_pos : ∀ name level, s.hierarchy.decision? name level = some true → 0 < level
  decision_iff : ∀ name level passes, IsSettled name →
    s.hierarchy.decision? name level = some passes →
      (passes = true ↔ 0 < level ∧ s.floorOf name ≤ level)

namespace State

variable {s s' : State} {name : String} {level : Int}

/-- The severities that pass a logger that has its place for good, or has decided
nothing yet. -/
theorem IsConsistent.passes_iff (hs : s.IsConsistent)
    (hname : IsSettled name ∨ s.hierarchy.decision? name level = none) :
    s.passes name level = true ↔ 0 < level ∧ s.floorOf name ≤ level := by
  unfold passes
  cases hdecision : s.hierarchy.decision? name level with
  | none => exact decide_eq_true_iff
  | some passes =>
    have hsettled : IsSettled name := hname.resolve_right (by simp [hdecision])
    exact hs.decision_iff name level passes hsettled hdecision

theorem IsConsistent.pos_of_passes (hs : s.IsConsistent) (h : s.passes name level = true) :
    0 < level := by
  unfold passes at h
  cases hdecision : s.hierarchy.decision? name level with
  | none =>
    rw [hdecision] at h
    exact (of_decide_eq_true h).1
  | some passes =>
    rw [hdecision] at h
    exact hs.level_pos name level (h ▸ hdecision)

/-- Nothing is kept in mind as long as the logger is not configured. -/
theorem IsConsistent.decision?_eq_none (hs : s.IsConsistent) (h : s.logger.configured = false)
    (name : String) (level : Int) : s.hierarchy.decision? name level = none := by
  rw [Hierarchy.decision?, hs.decided_eq_nil h]
  rfl

/-- A state with another logger in the hierarchy. -/
theorem IsConsistent.asked (hs : s.IsConsistent) (name : String) :
    IsConsistent { s with hierarchy := s.hierarchy.ask name } where
  name_mem_made := s.hierarchy.mem_made_ask _ name hs.name_mem_made
  decided_eq_nil h := (s.hierarchy.decided_ask name).trans (hs.decided_eq_nil h)
  level_pos other level h := by
    rw [Hierarchy.decision?_ask] at h
    exact hs.level_pos other level h
  decision_iff other level passes hother hdecision := by
    have hmade := s.hierarchy.mem_made_ask _ name hs.name_mem_made
    rw [Hierarchy.decision?_ask] at hdecision
    rw [hs.decision_iff other level passes hother hdecision, floorOf, floorOf,
      Hierarchy.isWithin_congr hs.name_mem_made hmade hother]

theorem ask_of_configured (h : s.logger.configured = true) (name : String) (level : Int) :
    s.ask name level =
      let asked := { s with hierarchy := s.hierarchy.ask name }
      { asked with hierarchy := asked.hierarchy.decide name level (asked.passes name level) } :=
  if_pos h

theorem ask_of_not_configured (h : s.logger.configured = false) (name : String) (level : Int) :
    s.ask name level = { s with hierarchy := s.hierarchy.ask name } :=
  if_neg (Bool.eq_false_iff.mp h)

/-- What a logger keeps in mind when it is asked is what it decides. -/
theorem IsConsistent.ask (hs : s.IsConsistent) (name : String) (level : Int) :
    (s.ask name level).IsConsistent := by
  have hasked := hs.asked name
  cases hconfigured : s.logger.configured with
  | false => rwa [ask_of_not_configured hconfigured]
  | true =>
    rw [ask_of_configured hconfigured]
    refine ⟨hasked.name_mem_made, fun h => ?_, fun other level' h => ?_,
      fun other level' passes hother hdecision => ?_⟩
    · cases hconfigured.symm.trans h
    · rw [Hierarchy.decision?_decide] at h
      split at h
      · rename_i hsame
        cases hsame
        exact hasked.pos_of_passes (Option.some.inj h)
      · exact hasked.level_pos other level' h
    · rw [Hierarchy.decision?_decide] at hdecision
      split at hdecision
      · rename_i hsame
        cases hsame
        obtain rfl := Option.some.inj hdecision
        exact hasked.passes_iff (.inl hother)
      · exact hasked.decision_iff other level' passes hother hdecision

/-- A state with the same hierarchy, and with the same logger if that was
configured. -/
theorem IsConsistent.of_hierarchy_eq (hs : s.IsConsistent) (hhierarchy : s'.hierarchy = s.hierarchy)
    (hlogger : s.logger.configured = true → s'.logger = s.logger) : s'.IsConsistent where
  name_mem_made := hhierarchy ▸ hs.name_mem_made
  decided_eq_nil h := by
    rw [hhierarchy]
    refine hs.decided_eq_nil (Bool.eq_false_iff.mpr fun hconfigured => ?_)
    rw [hlogger hconfigured, hconfigured] at h
    cases h
  level_pos name level h := hs.level_pos name level (hhierarchy ▸ h)
  decision_iff name level passes hname hdecision := by
    rw [hhierarchy] at hdecision
    cases hconfigured : s.logger.configured with
    | false => cases (hs.decision?_eq_none hconfigured name level).symm.trans hdecision
    | true =>
      rw [floorOf, hhierarchy, hlogger hconfigured]
      exact hs.decision_iff name level passes hname hdecision

theorem IsConsistent.forget {logger : Logger} (hs : s.IsConsistent) :
    IsConsistent { s with logger := logger, hierarchy := s.hierarchy.forget } where
  name_mem_made := hs.name_mem_made
  decided_eq_nil _ := rfl
  level_pos _ _ := nofun
  decision_iff _ _ _ _ := nofun

end State

theorem isConsistent_step {s : State} (hs : s.IsConsistent) (t : Step) :
    (step s t).1.IsConsistent := by
  have hhierarchy := (rest_step s t).1
  cases t with
  | reset => exact hs.forget
  | log name level origin template arguments =>
    rw [step_log]
    exact hs.ask name level
  | _ =>
    exact hs.of_hierarchy_eq hhierarchy fun h => (loggerStep s _).eq_of_configured h Step.noConfusion

/-- After any history of a session, what is kept in mind is what would be
decided anew. -/
theorem isConsistent_after (environment : Settings.Environment) (clock : Log.Time)
    (history : List Step) : (after (.initial environment clock) history).IsConsistent := by
  induction history using List.reverseRecOn with
  | nil =>
    have hmade : Logger.name ∈ Hierarchy.own := by decide
    exact ⟨hmade, fun _ => rfl, nofun, nofun⟩
  | append_singleton history t ih =>
    rw [after_concat]
    exact isConsistent_step ih t

end Quadratic.Session
