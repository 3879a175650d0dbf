/-
Quadratic.Log.Diagnostic — what the calculator itself writes to its log:
one message for each thing that can happen in a run, with the severity
and the logger that belong to it.

`ofRun` lists the messages of a run in the order in which they arise:
one for each token refused, in the order of the input; then, if there
was an evaluation, one for the computation and one for its result, and
otherwise one that says why the run ended.
-/
import Quadratic.Console.Run
import Quadratic.Log.Record
import Quadratic.Settings

namespace Quadratic.Log

/-- An event that is logged. -/
inductive Diagnostic
  | settingsInvalid (problems : List Settings.Problem)
  | tokenRejected (error : Console.TokenError)
  | computed (evaluation : Evaluation)
  | finished (evaluation : Evaluation)
  | aborted
deriving DecidableEq

/-- Where a record comes from, and the room that there is for its texts. -/
structure Origin where
  module : String
  function : String
  stack : Stack

namespace Diagnostic

/-- The severity of an event. -/
def level : Diagnostic → Int
  | settingsInvalid _ => LevelName.warning.number
  | tokenRejected _ | computed _ => LevelName.debug.number
  | finished _ => LevelName.info.number
  | aborted => LevelName.error.number

/-- The severity of an event has a name. -/
theorem short_level (d : Diagnostic) : Decimal.IsShort d.level := by
  cases d <;> (dsimp only [level]; decide)

/-- The logger of an event. -/
def logger : Diagnostic → String
  | settingsInvalid _ | finished _ | aborted => "src.calculator.app"
  | tokenRejected _ => "src.calculator.reader"
  | computed _ => "src.core.math.discriminant"

/-- Where an event is logged. Its record has no parts but texts and small
numbers, so any room will do. -/
def origin : Diagnostic → Origin
  | settingsInvalid _ => ⟨"app", "_configure_logging", .least⟩
  | tokenRejected _ => ⟨"reader", "read_coefficient", .least⟩
  | computed _ => ⟨"discriminant", "evaluate", .least⟩
  | finished _ | aborted => ⟨"app", "main", .least⟩

/-- The numbers of an evaluation, in the style of log messages. -/
def computedMessage (e : Evaluation) : String :=
  "discriminant computed: a=" ++ Style.diagnostic.text e.coefficients.a ++
    " b=" ++ Style.diagnostic.text e.coefficients.b ++
    " c=" ++ Style.diagnostic.text e.coefficients.c ++
    " D=" ++ Style.diagnostic.text e.discriminant ++ " -> " ++ e.rootCount.name

/-- The message of an event. -/
def message : Diagnostic → String
  | settingsInvalid ps =>
      "Invalid logging settings, using defaults: " ++ Settings.problemsText ps
  | tokenRejected e => "rejected token: " ++ e.message
  | computed e => computedMessage e
  | finished e => "Done: " ++ e.details
  | aborted => "Aborted: " ++ Console.endOfInputMessage

/-- The messages of a run. -/
def ofRun (r : Console.Reading Evaluation) : List Diagnostic :=
  r.rejected.map tokenRejected ++
    match r.value with
    | some e => [computed e, finished e]
    | none => [aborted]

end Diagnostic

end Quadratic.Log
