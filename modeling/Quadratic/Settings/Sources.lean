/-
Quadratic.Settings.Sources — where the values of fields come from:
arguments, keywords, the environment, and the files and folders that
keywords name.

Sources can also be handed over ready made, as a pair of a row of sources
and of keywords for them. No value here can be used as a source, so that
only an empty row will do, and then nothing is given to any field.
-/
import Quadratic.Settings.Arguments
import Quadratic.Settings.Lookup
import Quadratic.Settings.Path

namespace Quadratic.Settings

/-- Where values come from. -/
structure Sources where
  arguments : List (Field × Value)
  keywords : List (String × Value)
  lookup : Lookup
  environment : Environment
  stored : Stored

namespace Sources

/-- The sources that give nothing. -/
def empty : Sources := ⟨[], [], Lookup.standard, [], .nothing⟩

/-- The environment as the only source. -/
def ofEnvironment (env : Environment) : Sources := ⟨[], [], Lookup.standard, env, .nothing⟩

/-- The value of the last argument for a field. -/
def argument? (s : Sources) (f : Field) : Option Value :=
  (s.arguments.reverse.find? fun m => m.1 = f).map (·.2)

/-- The value of the first keyword that names a field, in any case. -/
def keyword? (s : Sources) (f : Field) : Option Value :=
  (s.keywords.find? fun m => fold m.1 = f.name).map (·.2)

/-- The value that is given to a field: by argument, else by keyword, else
by variable, else by what is stored. -/
def given? (s : Sources) (f : Field) : Option Value :=
  (((s.argument? f).or (s.keyword? f)).or (s.environment.value? s.lookup f.name)).or (s.stored f)

/-- What is stored counts only if a keyword names a file or a folder. -/
def storedFor (keywords : List (String × Value)) (stored : Stored) : Stored :=
  if option? keywords "_env_file" = none ∧ option? keywords "_secrets_dir" = none then .nothing
  else stored

/-- Whether sources that are handed over ready made can be used. -/
def checkReadyMade (v : Value) : Except KeywordError Unit :=
  match v.parts? with
  | none => .error (.notUnpackable v.typeName)
  | some [sources, _] =>
      if ¬ sources.isTrue then .ok ()
      else
        match sources.parts? with
        | none => .error (.notIterable sources.typeName)
        | some [] => .ok ()
        | some (source :: _) => .error (.notCallable source.typeName)
  | some parts => .error (if parts.length < 2 then .tooFewParts parts.length else .tooManyParts)

/-- The sources that some keywords describe. They are set up in the order
environment, files, arguments, and then read; folders are looked up only
when they are read. -/
def ofKeywords (keywords : List (String × Value)) (env : Environment)
    (stored : Stored := .nothing) : Except KeywordError Sources := do
  checkFree "BaseSettings.__init__()" "__pydantic_self__" keywords
  match option? keywords "_build_sources" with
  | some v =>
      checkReadyMade v
      return empty
  | none =>
      checkOption keywords "_env_nested_max_split" checkNesting
      checkOption keywords "_env_prefix" checkLength
      checkOption keywords "_env_file" (checkFiles keywords)
      let arguments ← argumentValues keywords
      let lookup ← Lookup.ofKeywords keywords
      checkOption keywords "_secrets_dir" checkFolders
      return ⟨arguments, keywords, lookup, env, storedFor keywords stored⟩

end Sources

end Quadratic.Settings
