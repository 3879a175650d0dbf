/-
Quadratic.Log.Level — severities: eight names for six numbers.

A record has a number, and it is shown with the name of that number, if
it has one. A threshold is given by name or by number; of two names for
one number only the first is ever shown.
-/

namespace Quadratic.Log

/-- The names of severities. -/
inductive LevelName
  | critical
  | fatal
  | error
  | warn
  | warning
  | info
  | debug
  | notset
deriving DecidableEq

namespace LevelName

/-- All names. -/
def all : List LevelName :=
  [critical, fatal, error, warn, warning, info, debug, notset]

/-- The spelling of a name. -/
def text : LevelName → String
  | critical => "CRITICAL"
  | fatal => "FATAL"
  | error => "ERROR"
  | warn => "WARN"
  | warning => "WARNING"
  | info => "INFO"
  | debug => "DEBUG"
  | notset => "NOTSET"

/-- The severity that a name stands for. -/
def number : LevelName → Int
  | critical => 50
  | fatal => 50
  | error => 40
  | warn => 30
  | warning => 30
  | info => 20
  | debug => 10
  | notset => 0

/-- The name with a given spelling. -/
def ofText? (s : String) : Option LevelName := all.find? fun l => l.text = s

end LevelName

/-- A severity as it is shown in a record. -/
def levelText (n : Int) : String :=
  if n = 50 then LevelName.critical.text
  else if n = 40 then LevelName.error.text
  else if n = 30 then LevelName.warning.text
  else if n = 20 then LevelName.info.text
  else if n = 10 then LevelName.debug.text
  else if n = 0 then LevelName.notset.text
  else "Level " ++ toString n

/-- The severity from which on records are passed to the outermost
logger, which no setting changes. -/
def outermostLevel : Int := LevelName.warning.number

end Quadratic.Log
