/-
Quadratic.Proofs.UsableSettings — settings that were checked can be used, and
do not show how they were spelled.

The severity is looked up twice, in two places: when settings are checked, and
when the logger gets its threshold. Between the two it travels as a text. That
both agree is what makes a configuration with checked settings succeed.

A text is accepted as a severity if it spells one of eight names: with white
space around it, and in any letters whose capital forms are those of the name
(`Spells`). What is kept is the name, so that settings which differ in
spelling only are the same settings.

* `levelOf?_eq_some_iff` — the texts that are accepted.
* `evaluate_congr` — of the severity only its name reaches the settings.
* `ofKeywords_congr` — a keyword that is no option does not change how a call
  is read.
* `validated_usable_and_canonical` — all of it, for every call.
-/
import Quadratic.Proofs.Capitals
import Quadratic.Proofs.InvalidSettings

namespace Quadratic

namespace Settings

/-! ## 1. Names of severities -/

/-- The names of severities, with the numbers that they stand for. -/
def levelNumbers : List (String × Int) :=
  [("CRITICAL", 50), ("FATAL", 50), ("ERROR", 40), ("WARN", 30), ("WARNING", 30), ("INFO", 20),
    ("DEBUG", 10), ("NOTSET", 0)]

/-- A text spells a name: it has white space at both ends, or none, and what is
between has the name as its capital form. -/
def Spells (text name : String) : Prop :=
  ∃ before core after, text.toList = before ++ core ++ after ∧
    (∀ c ∈ before, Text.isSpace c = true) ∧ (∀ c ∈ after, Text.isSpace c = true) ∧
    Text.uppercase core = name.toList

theorem mem_levelNumbers (l : Log.LevelName) : (l.text, l.number) ∈ levelNumbers := by
  cases l <;> decide

theorem exists_of_mem_levelNumbers {m : String × Int} (h : m ∈ levelNumbers) :
    ∃ l : Log.LevelName, l.text = m.1 := by
  have hnames : ∀ m ∈ levelNumbers, ∃ l ∈ Log.LevelName.all, l.text = m.1 := by decide
  obtain ⟨l, -, hl⟩ := hnames m h
  exact ⟨l, hl⟩

theorem isCapital_text (l : Log.LevelName) : Text.IsCapital l.text.toList := by
  cases l <;> decide

theorem ofText?_eq_some_iff (s : String) (l : Log.LevelName) :
    Log.LevelName.ofText? s = some l ↔ s = l.text := by
  constructor
  · intro h
    have hl : l.text = s := by simpa using List.find?_some h
    exact hl.symm
  · rintro rfl
    cases l <;> decide

/-- The texts that are accepted as a severity. -/
theorem levelOf?_eq_some_iff (text : String) (l : Log.LevelName) :
    levelOf? text = some l ↔ Spells text l.text := by
  rw [levelOf?, ofText?_eq_some_iff, ← String.toList_inj, String.toList_ofList]
  exact (Text.exists_uppercase_iff (isCapital_text l) text.toList).symm

/-! ## 2. Evaluation, field by field -/

theorem evaluate_eq_ok_iff (s : Sources) (settings : Settings) :
    evaluate s = .ok settings ↔
      checked stringOf standard.appName .appName (s.given? .appName) = .ok settings.appName ∧
      checked levelOf standard.logLevel .logLevel (s.given? .logLevel) = .ok settings.logLevel ∧
      checked formatOf standard.logFormat .logFormat (s.given? .logFormat) =
        .ok settings.logFormat := by
  obtain ⟨n, l, f⟩ := settings
  unfold evaluate
  cases checked stringOf standard.appName .appName (s.given? .appName) <;>
    cases checked levelOf standard.logLevel .logLevel (s.given? .logLevel) <;>
    cases checked formatOf standard.logFormat .logFormat (s.given? .logFormat) <;>
    simp

/-- A problem names the field that was checked. -/
theorem field_of_mem_problemOf {α : Type} {read : Value → Except Fault α} {default : α} {f : Field}
    {v : Option Value} {p : Problem} (hp : p ∈ problemOf (checked read default f v)) :
    p.field = f := by
  cases v with
  | none => cases hp
  | some v =>
    rw [checked] at hp
    cases hread : read v with
    | ok a =>
      rw [hread] at hp
      cases hp
    | error e =>
      rw [hread] at hp
      rw [List.mem_singleton.mp hp]

theorem problemOf_eq_nil_iff {α : Type} (r : Except Problem α) :
    problemOf r = [] ↔ ∃ a, r = .ok a := by
  cases r <;> simp [problemOf]

/-- Of the problems of sources, those of the severity come from its own
check. -/
theorem exists_problem_logLevel_iff (s : Sources) :
    (∃ ps, evaluate s = .error ps ∧ ∃ p ∈ ps, p.field = .logLevel) ↔
      problemOf (checked levelOf standard.logLevel .logLevel (s.given? .logLevel)) ≠ [] := by
  constructor
  · rintro ⟨ps, hps, p, hp, hfield⟩
    obtain ⟨rfl, -⟩ := (evaluate_eq_error_iff s ps).mp hps
    rw [Sources.problems, List.mem_append, List.mem_append] at hp
    rcases hp with (hname | hlevel) | hformat
    · cases hfield.symm.trans (field_of_mem_problemOf hname)
    · exact List.ne_nil_of_mem hlevel
    · cases hfield.symm.trans (field_of_mem_problemOf hformat)
  · intro h
    obtain ⟨p, hp⟩ := List.exists_mem_of_ne_nil _ h
    have hmem : p ∈ s.problems := List.mem_append_left _ (List.mem_append_right _ hp)
    exact ⟨_, (evaluate_eq_error_iff s _).mpr ⟨rfl, List.ne_nil_of_mem hmem⟩, p, hmem,
      field_of_mem_problemOf hp⟩

/-! ## 3. Spellings -/

/-- The text that sources give for the severity. -/
def Sources.spelling? (s : Sources) : Option String := (s.given? .logLevel).bind Value.text?

/-- The check of a severity that is given as a text. -/
theorem checked_eq_ok_iff {s : Sources} {text : String} (htext : s.spelling? = some text)
    (l : Log.LevelName) :
    checked levelOf standard.logLevel .logLevel (s.given? .logLevel) = .ok l ↔
      Spells text l.text := by
  obtain ⟨v, hv, hvtext⟩ := Option.bind_eq_some_iff.mp htext
  have hstring : stringOf v = .ok text := by rw [stringOf, hvtext]
  rw [hv, checked, levelOf, hstring, ← levelOf?_eq_some_iff]
  simp only [bind, Except.bind]
  cases levelOf? text <;> simp [Except.mapError]

/-- Sources that give the same to all fields, but for two texts for the
severity. -/
def Respelled (s s' : Sources) (text text' : String) : Prop :=
  ∀ f, s.given? f = s'.given? f ∨
    f = .logLevel ∧ s.spelling? = some text ∧ s'.spelling? = some text'

/-- Of the severity only its name reaches the settings. -/
theorem evaluate_congr {s s' : Sources} {text text' : String} (h : Respelled s s' text text')
    {l : Log.LevelName} (htext : Spells text l.text) (htext' : Spells text' l.text) :
    evaluate s = evaluate s' := by
  have hname : s.given? .appName = s'.given? .appName := (h .appName).resolve_right nofun
  have hformat : s.given? .logFormat = s'.given? .logFormat := (h .logFormat).resolve_right nofun
  have hlevel : checked levelOf standard.logLevel .logLevel (s.given? .logLevel) =
      checked levelOf standard.logLevel .logLevel (s'.given? .logLevel) := by
    rcases h .logLevel with hsame | ⟨-, hs, hs'⟩
    · rw [hsame]
    · rw [(checked_eq_ok_iff hs l).mpr htext, (checked_eq_ok_iff hs' l).mpr htext']
  unfold evaluate
  rw [hname, hlevel, hformat]

/-! ## 4. One member in a row -/

section

variable {α β : Type} {P Q : Prop} {x y : α} {o o' : Option α}

/-- Two answers are the same, or under a condition the one is `x` and the other
`y`. -/
def Differ (P : Prop) (x y : α) (o o' : Option α) : Prop :=
  o = o' ∨ P ∧ o = some x ∧ o' = some y

theorem Differ.imp (h : Differ P x y o o') (hPQ : P → Q) : Differ Q x y o o' :=
  h.imp_right fun h => ⟨hPQ h.1, h.2⟩

theorem Differ.map (h : Differ P x y o o') (f : α → β) :
    Differ P (f x) (f y) (o.map f) (o'.map f) := by
  rcases h with rfl | ⟨hP, rfl, rfl⟩
  · exact .inl rfl
  · exact .inr ⟨hP, rfl, rfl⟩

theorem Differ.or_after (h : Differ P x y o o') (first : Option α) :
    Differ P x y (first.or o) (first.or o') := by
  cases first with
  | some z => exact .inl rfl
  | none => exact h

theorem Differ.or_before (h : Differ P x y o o') (last : Option α) :
    Differ P x y (o.or last) (o'.or last) := by
  rcases h with rfl | ⟨hP, rfl, rfl⟩
  · exact .inl rfl
  · exact .inr ⟨hP, rfl, rfl⟩

/-- A search in two rows that differ in one place finds the same, or what is in
that place. -/
theorem differ_find? {p : α → Bool} (hxy : p x = p y) (before after : List α) :
    Differ (p x = true) x y ((before ++ x :: after).find? p)
      ((before ++ y :: after).find? p) := by
  rw [List.find?_append, List.find?_append, List.find?_cons, List.find?_cons, ← hxy]
  refine Differ.or_after ?_ _
  cases p x with
  | true => exact .inr ⟨rfl, rfl, rfl⟩
  | false => exact .inl rfl

end

theorem respelled_of_differ {s s' : Sources} {a b : String}
    (h : ∀ f, Differ (f = .logLevel) (.string a) (.string b) (s.given? f) (s'.given? f)) :
    Respelled s s' a b := by
  intro f
  rcases h f with hsame | ⟨rfl, ha, hb⟩
  · exact .inl hsame
  · right
    rw [Sources.spelling?, Sources.spelling?, ha, hb]
    exact ⟨rfl, rfl, rfl⟩

section

variable {name a b : String}

/-- Two texts for a keyword that names the severity. -/
theorem respelled_keyword (hname : fold name = Field.logLevel.name) (arguments : List (Field × Value))
    (before after : List (String × Value)) (lookup : Lookup) (env : Environment) (stored : Stored) :
    Respelled ⟨arguments, before ++ (name, .string a) :: after, lookup, env, stored⟩
      ⟨arguments, before ++ (name, .string b) :: after, lookup, env, stored⟩ a b := by
  refine respelled_of_differ fun f => ?_
  have hlevel : fold name = f.name → f = .logLevel := by
    rw [hname]
    cases f <;> decide
  have hkeyword := (differ_find? (x := (name, Value.string a)) (y := (name, Value.string b))
    (p := fun m => decide (fold m.1 = f.name)) rfl before after).map (·.2)
  exact (((hkeyword.imp fun h => hlevel (of_decide_eq_true h)).or_after _).or_before _).or_before _

/-- Two texts for a variable that names the severity. -/
theorem respelled_variable (hname : fold name = fold "DISCRIMINANT_LOG_LEVEL")
    (arguments : List (Field × Value)) (keywords : List (String × Value))
    (before after : Environment) (stored : Stored) :
    Respelled ⟨arguments, keywords, .standard, before ++ (name, a) :: after, stored⟩
      ⟨arguments, keywords, .standard, before ++ (name, b) :: after, stored⟩ a b := by
  refine respelled_of_differ fun f => Differ.or_before (Differ.or_after ?_ _) _
  have hlevel : fold name = fold ("DISCRIMINANT_" ++ f.name) → f = .logLevel := by
    rw [hname]
    cases f <;> decide
  have hvalue : ∀ env : Environment, env.value? .standard f.name =
      (variableText? env f).map Value.string := fun env => value?_standard env f
  have hreverse : ∀ m : String × String, (before ++ m :: after).reverse =
      after.reverse ++ m :: before.reverse := by simp
  have hvariable := (differ_find? (x := (name, a)) (y := (name, b))
    (p := fun m => decide (fold m.1 = fold ("DISCRIMINANT_" ++ f.name))) rfl after.reverse
    before.reverse).map (·.2)
  dsimp only
  rw [hvalue, hvalue, variableText?, variableText?, hreverse, hreverse]
  exact (hvariable.imp fun h => hlevel (of_decide_eq_true h)).map Value.string

end

/-! ## 5. Calls -/

section

variable {ks ks' : List (String × Value)}
  (h : ∀ n, fold n ≠ Field.logLevel.name → Value.lookup? n ks = Value.lookup? n ks')

include h

theorem option?_congr {n : String} (hn : fold n ≠ Field.logLevel.name) :
    option? ks n = option? ks' n := by
  rw [option?, option?, h n hn]

theorem isSet_congr {n : String} (hn : fold n ≠ Field.logLevel.name) : isSet ks n = isSet ks' n := by
  rw [isSet, isSet, option?_congr h hn]

theorem textOption?_congr {n : String} (hn : fold n ≠ Field.logLevel.name) :
    textOption? ks n = textOption? ks' n := by
  rw [textOption?, textOption?, option?_congr h hn]

theorem checkOption_congr {n : String} (hn : fold n ≠ Field.logLevel.name) :
    checkOption ks n = checkOption ks' n := by
  funext check
  rw [checkOption, checkOption, option?_congr h hn]

theorem checkFiles_congr : checkFiles ks = checkFiles ks' := by
  funext v
  simp (disch := decide) only [checkFiles, checkOption_congr h]

theorem argumentValues_congr : argumentValues ks = argumentValues ks' := by
  have hstyle : ArgumentStyle.ofKeywords ks = ArgumentStyle.ofKeywords ks' := by
    simp (disch := decide) only [ArgumentStyle.ofKeywords, option?_congr h, textOption?_congr h,
      isSet_congr h]
  simp (disch := decide) only [argumentValues, option?_congr h, checkOption_congr h, hstyle]

theorem lookup_congr : Lookup.ofKeywords ks = Lookup.ofKeywords ks' := by
  have hstart : usesStart ks = usesStart ks' := by
    rw [usesStart, usesStart, option?_congr h (by decide)]
  simp (disch := decide) only [Lookup.ofKeywords, startOf, hstart, option?_congr h,
    textOption?_congr h, isSet_congr h]

/-- A call is read by its options. Two calls with the same options give the
same if what they are read as evaluates to the same. -/
theorem ofKeywords_congr {env env' : Environment} {stored : Stored}
    (hevaluate : ∀ arguments lookup stored, Lookup.ofKeywords ks = .ok lookup →
      evaluate ⟨arguments, ks, lookup, env, stored⟩ =
        evaluate ⟨arguments, ks', lookup, env', stored⟩) :
    ofKeywords ks env stored = ofKeywords ks' env' stored := by
  have hstored : Sources.storedFor ks stored = Sources.storedFor ks' stored := by
    rw [Sources.storedFor, Sources.storedFor, option?_congr h (by decide),
      option?_congr h (by decide)]
  have hfree : checkFree "BaseSettings.__init__()" "__pydantic_self__" ks =
      checkFree "BaseSettings.__init__()" "__pydantic_self__" ks' := by
    rw [checkFree, checkFree, h _ (by decide)]
  unfold ofKeywords Sources.ofKeywords
  rw [hfree, option?_congr h (by decide), checkOption_congr h (by decide),
    checkOption_congr h (by decide), checkOption_congr h (by decide),
    checkOption_congr h (by decide), checkFiles_congr h, argumentValues_congr h, ← lookup_congr h,
    hstored]
  -- The checks are the same by now, so both calls fail at the same one, or none.
  cases checkFree "BaseSettings.__init__()" "__pydantic_self__" ks' with
  | error e => rfl
  | ok _ =>
  cases option? ks' "_build_sources" with
  | some v => rfl
  | none =>
  cases checkOption ks' "_env_nested_max_split" checkNesting with
  | error e => rfl
  | ok _ =>
  cases checkOption ks' "_env_prefix" checkLength with
  | error e => rfl
  | ok _ =>
  cases checkOption ks' "_env_file" (checkFiles ks') with
  | error e => rfl
  | ok _ =>
  cases argumentValues ks' with
  | error e => rfl
  | ok arguments =>
  cases hlookup : Lookup.ofKeywords ks with
  | error e => rfl
  | ok lookup =>
  cases checkOption ks' "_secrets_dir" checkFolders with
  | error e => rfl
  | ok _ =>
    exact congrArg (Except.mapError Failure.problems) (hevaluate arguments lookup _ hlookup)

end

theorem lookup?_replaced {n name : String} (hn : name ≠ n) (v w : Value)
    (before after : List (String × Value)) :
    Value.lookup? n (before ++ (name, v) :: after) =
      Value.lookup? n (before ++ (name, w) :: after) := by
  have hfind := differ_find? (x := (name, v)) (y := (name, w)) (p := fun m => decide (m.1 = n)) rfl
    before after
  rcases hfind with hsame | ⟨hname, -⟩
  · rw [Value.lookup?, Value.lookup?, hsame]
  · exact absurd (of_decide_eq_true hname) hn

section

variable {name a b : String} {l : Log.LevelName} (ha : Spells a l.text) (hb : Spells b l.text)

include ha hb

/-- How a keyword spells the severity does not matter. -/
theorem ofKeywords_respelled_keyword (hname : fold name = Field.logLevel.name)
    (before after : List (String × Value)) (env : Environment) (stored : Stored) :
    ofKeywords (before ++ (name, .string a) :: after) env stored =
      ofKeywords (before ++ (name, .string b) :: after) env stored := by
  refine ofKeywords_congr (fun n hn => lookup?_replaced ?_ _ _ before after)
    fun arguments lookup stored _ =>
      evaluate_congr (respelled_keyword hname arguments before after lookup env stored) ha hb
  rintro rfl
  exact hn hname

/-- How a variable spells the severity does not matter. -/
theorem ofKeywords_respelled_variable (hname : fold name = fold "DISCRIMINANT_LOG_LEVEL")
    {keywords : List (String × Value)} (hlookup : Lookup.ofKeywords keywords = .ok .standard)
    (before after : Environment) (stored : Stored) :
    ofKeywords keywords (before ++ (name, a) :: after) stored =
      ofKeywords keywords (before ++ (name, b) :: after) stored := by
  refine ofKeywords_congr (fun _ _ => rfl) fun arguments lookup stored h => ?_
  obtain rfl := Except.ok.inj (hlookup.symm.trans h)
  exact evaluate_congr (respelled_variable hname arguments keywords before after stored) ha hb

end

/-! ## 6. Checked settings -/

/-- What checked settings have for a field, as it is given to a call. -/
def given (s : Settings) : Field → Value
  | .appName => .string s.appName
  | .logLevel => .string s.logLevel.text
  | .logFormat => .string s.logFormat.name

/-- The keywords that give checked settings. -/
def toKeywords (s : Settings) : List (String × Value) :=
  Field.all.map fun f => (f.name, s.given f)

theorem levelOf_text (l : Log.LevelName) : levelOf (.string l.text) = .ok l := by
  cases l <;> rfl

theorem formatOf_name (f : Log.LineFormat) : formatOf (.string f.name) = .ok f := by
  cases f <;> rfl

theorem lineFormat_toUnchecked (s : Settings) : s.toUnchecked.lineFormat = s.logFormat := by
  rw [Unchecked.lineFormat, toUnchecked]
  cases s.logFormat <;> rfl

theorem checked_some {α : Type} {read : Value → Except Fault α} {v : Value} {a : α}
    (h : read v = .ok a) (default : α) (f : Field) : checked read default f (some v) = .ok a := by
  rw [checked, h]
  rfl

/-- Keywords come before the environment and what is stored. -/
theorem given?_toKeywords (s : Settings) (env : Environment) (stored : Stored) (f : Field) :
    (Sources.mk [] s.toKeywords .standard env stored).given? f = some (s.given f) := by
  have hfold : ∀ f : Field, fold f.name = f.name := by
    intro f
    cases f <;> decide
  have hkeyword :
      (Sources.mk [] s.toKeywords .standard env stored).keyword? f = some (s.given f) := by
    simp only [Sources.keyword?, toKeywords, Field.all, List.map_cons, List.map_nil,
      List.find?_cons, hfold]
    cases f <;> rfl
  rw [Sources.given?, hkeyword]
  rfl

/-- Checked settings that are given again are the same settings, in any
environment. -/
theorem ofKeywords_toKeywords (s : Settings) (env : Environment) (stored : Stored) :
    ofKeywords s.toKeywords env stored = .ok s := by
  have hsources : Sources.ofKeywords s.toKeywords env stored =
      .ok ⟨[], s.toKeywords, .standard, env, .nothing⟩ := rfl
  have hevaluate : evaluate ⟨[], s.toKeywords, .standard, env, .nothing⟩ = .ok s := by
    rw [evaluate_eq_ok_iff, given?_toKeywords, given?_toKeywords, given?_toKeywords]
    exact ⟨rfl, checked_some (levelOf_text s.logLevel) _ _,
      checked_some (formatOf_name s.logFormat) _ _⟩
  rw [ofKeywords, hsources]
  exact congrArg (Except.mapError Failure.problems) hevaluate

end Settings

namespace Session

/-- Checked settings configure a logger that is not configured. Its threshold
is the number of their severity. -/
theorem configure_of_unconfigured {s : State} (h : s.logger.configured = false)
    (settings : Settings) :
    s.configure settings.toUnchecked =
      .ok { s with
        logger := s.logger.install ⟨settings.logFormat, s.errorStream⟩
          (.number settings.logLevel.number) } := by
  have hlevel : thresholdOf settings.toUnchecked.logLevel = .ok (.number settings.logLevel.number) :=
    thresholdOf_text settings.logLevel
  rw [State.configure, h, if_neg Bool.false_ne_true, hlevel, Settings.lineFormat_toUnchecked]
  rfl

end Session

namespace Settings

open Log (Time)

/-- Settings that can be used. They have one of the names that are known, and
one of the two forms of lines. Given to a call again they stay as they are,
and they configure the logger of a session at any point at which it is not
configured. -/
structure Usable (s : Settings) : Prop where
  level_mem : (s.logLevel.text, s.logLevel.number) ∈ levelNumbers
  format_mem : s.logFormat.name ∈ ["text", "json"]
  checked_again : ∀ environment stored, ofKeywords s.toKeywords environment stored = .ok s
  configure : ∀ (environment : Environment) (clock : Time) (history : List Session.Step),
    let state := Session.after (.initial environment clock) history
    state.logger.configured = false →
      state.configure s.toUnchecked =
        .ok { state with
          logger := Session.Logger.initial.install ⟨s.logFormat, state.errorStream⟩
            (.number s.logLevel.number) }

theorem usable (s : Settings) : Usable s where
  level_mem := mem_levelNumbers s.logLevel
  format_mem := by cases s.logFormat <;> decide
  checked_again := ofKeywords_toKeywords s
  configure := by
    intro environment clock history state hstate
    have hclean : state.logger.IsClean := Session.isClean_after rfl history
    rw [Session.configure_of_unconfigured hstate, hclean.eq_initial hstate]

/-! ## 7. Calls that are refused, and all the others -/

/-- A call refuses its severity: one of the problems is that of the severity. -/
def RefusesLevel (r : Except Failure Settings) : Prop :=
  ∃ ps, r = .error (.problems ps) ∧ ∃ p ∈ ps, p.field = .logLevel

theorem exists_spells_iff (text : String) :
    (∃ m ∈ levelNumbers, Spells text m.1) ↔ ∃ l, levelOf? text = some l := by
  constructor
  · rintro ⟨m, hm, htext⟩
    obtain ⟨l, hl⟩ := exists_of_mem_levelNumbers hm
    exact ⟨l, (levelOf?_eq_some_iff text l).mpr (hl ▸ htext)⟩
  · rintro ⟨l, hl⟩
    exact ⟨_, mem_levelNumbers l, (levelOf?_eq_some_iff text l).mp hl⟩

section

variable {keywords : List (String × Value)} {environment : Environment} {stored : Stored}
  {s : Sources} (hs : Sources.ofKeywords keywords environment stored = .ok s)

include hs

theorem ofKeywords_eq_evaluate :
    ofKeywords keywords environment stored = (evaluate s).mapError .problems := by
  rw [ofKeywords, hs]
  rfl

/-- A text is refused as a severity if it does not spell one of the names. -/
theorem refusesLevel_iff {text : String} (htext : s.spelling? = some text) :
    RefusesLevel (ofKeywords keywords environment stored) ↔
      ¬ ∃ m ∈ levelNumbers, Spells text m.1 := by
  have hevaluate : RefusesLevel (ofKeywords keywords environment stored) ↔
      ∃ ps, evaluate s = .error ps ∧ ∃ p ∈ ps, p.field = .logLevel := by
    rw [RefusesLevel, ofKeywords_eq_evaluate hs]
    cases evaluate s <;> simp [Except.mapError]
  rw [hevaluate, exists_problem_logLevel_iff, ne_eq, problemOf_eq_nil_iff, exists_spells_iff]
  simp only [checked_eq_ok_iff htext, levelOf?_eq_some_iff]

/-- A text that is accepted gives the name that it spells. -/
theorem spells_of_ofKeywords {text : String} (htext : s.spelling? = some text) {settings : Settings}
    (h : ofKeywords keywords environment stored = .ok settings) : Spells text settings.logLevel.text := by
  rw [ofKeywords_eq_evaluate hs] at h
  have hok : evaluate s = .ok settings := by
    cases hevaluate : evaluate s with
    | ok settings' =>
      rw [hevaluate] at h
      exact congrArg Except.ok (Except.ok.inj h)
    | error ps =>
      rw [hevaluate] at h
      cases h
  exact (checked_eq_ok_iff htext _).mp ((evaluate_eq_ok_iff s settings).mp hok).2.1

end

/-- The settings of all calls, with any keywords and in any environment, and
whatever is stored in the files and folders that are named.

Those that a call gives can be used: they have one of eight names and one of
two forms, they are the same if they are checked again, and they configure the
logger at every point of a session at which it is not configured, with the
number of their name as the threshold.

Where a text is given for the severity, by argument, by keyword, by variable or
by what is stored, the call refuses the severity exactly if the text does not
spell one of the names, and else takes the name that it spells. The dotless i
and the long s count as the letters that are their capitals.

Two texts that spell the same name come to the same: in calls that differ in
nothing else that is given to a field, as two texts for one keyword, and as two
texts for one variable. -/
theorem validated_usable_and_canonical :
    (∀ keywords environment stored settings,
      ofKeywords keywords environment stored = .ok settings → Usable settings) ∧
    (∀ keywords environment stored s text,
      Sources.ofKeywords keywords environment stored = .ok s → s.spelling? = some text →
        (RefusesLevel (ofKeywords keywords environment stored) ↔
          ¬ ∃ m ∈ levelNumbers, Spells text m.1) ∧
        ∀ settings, ofKeywords keywords environment stored = .ok settings →
          Spells text settings.logLevel.text) ∧
    (Text.uppercase ['\u0131'] = ['I'] ∧ Text.uppercase ['\u017f'] = ['S']) ∧
    ∀ m ∈ levelNumbers, ∀ a b, Spells a m.1 → Spells b m.1 →
      (∀ keywords environment stored s keywords' environment' stored' s',
        Sources.ofKeywords keywords environment stored = .ok s →
        Sources.ofKeywords keywords' environment' stored' = .ok s' → Respelled s s' a b →
          ofKeywords keywords environment stored = ofKeywords keywords' environment' stored') ∧
      (∀ name, fold name = "log_level" → ∀ before after environment stored,
        ofKeywords (before ++ (name, .string a) :: after) environment stored =
          ofKeywords (before ++ (name, .string b) :: after) environment stored) ∧
      ∀ name, fold name = fold "DISCRIMINANT_LOG_LEVEL" → ∀ keywords before after stored,
        Lookup.ofKeywords keywords = .ok .standard →
          ofKeywords keywords (before ++ (name, a) :: after) stored =
            ofKeywords keywords (before ++ (name, b) :: after) stored := by
  refine ⟨fun _ _ _ settings _ => usable settings,
    fun keywords environment stored s text hs htext =>
      ⟨refusesLevel_iff hs htext, fun settings => spells_of_ofKeywords hs htext⟩, by decide, ?_⟩
  intro m hm a b ha hb
  obtain ⟨l, hl⟩ := exists_of_mem_levelNumbers hm
  rw [← hl] at ha hb
  refine ⟨fun keywords environment stored s keywords' environment' stored' s' hs hs' h => ?_,
    fun name hname before after => ofKeywords_respelled_keyword ha hb hname before after,
    fun name hname keywords before after stored hlookup =>
      ofKeywords_respelled_variable ha hb hname hlookup before after stored⟩
  rw [ofKeywords_eq_evaluate hs, ofKeywords_eq_evaluate hs', evaluate_congr h ha hb]

/-- A dotless i between an em space and a separator. The logger was configured
before, and reset. -/
theorem validated_usable_and_canonical_dotless :
    let environment := [("discriminant_log_format", " JSON\n")]
    let state := Session.after (.initial environment ⟨0, 0⟩) [.configure none, .reset,
      .replaceErrorStream]
    let settings : Settings := ⟨"discriminant-calculator", .info, .json⟩
    Spells "\u2003\u0131nfo\u001c" "INFO" ∧
      ofKeywords [("Log_Level", .string "\u2003\u0131nfo\u001c")] environment = .ok settings ∧
      ofKeywords [("Log_Level", .string "Info")] environment = .ok settings ∧
      state.configure settings.toUnchecked =
        .ok { state with
          logger := Session.Logger.initial.install ⟨.json, state.errorStream⟩ (.number 20) } ∧
      RefusesLevel (ofKeywords [("log_level", .string "\u0130NFO")] []) := by
  intro environment state settings
  obtain ⟨husable, hlevel, -, hsame⟩ := validated_usable_and_canonical
  have hdotless : Spells "\u2003\u0131nfo\u001c" "INFO" :=
    ⟨['\u2003'], "\u0131nfo".toList, ['\u001c'], by decide, by decide, by decide, by decide⟩
  have hplain : Spells "Info" "INFO" :=
    ⟨[], "Info".toList, [], by decide, by decide, by decide, by decide⟩
  have hok : ofKeywords [("Log_Level", .string "Info")] environment = .ok settings := by
    decide +kernel
  have hrespelled := (hsame ("INFO", 20) (by decide) _ _ hdotless hplain).2.1 "Log_Level"
    (by decide) [] [] environment .nothing
  have hunknown : levelOf? "\u0130NFO" = none := by decide
  have hreset : state.logger.configured = false := by decide +kernel
  refine ⟨hdotless, hrespelled.trans hok, hok,
    (husable _ _ _ _ hok).configure environment ⟨0, 0⟩ _ hreset, ?_⟩
  have htext :
      (Sources.mk [] [("log_level", .string "\u0130NFO")] .standard [] .nothing).spelling? =
        some "\u0130NFO" := by decide
  refine (hlevel _ _ _ _ _ rfl htext).1.mpr ?_
  rw [exists_spells_iff, hunknown]
  rintro ⟨l, hl⟩
  cases hl

end Settings

end Quadratic
