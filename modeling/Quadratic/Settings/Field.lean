/-
Quadratic.Settings.Field — the fields of the settings.
-/
import Quadratic.Value

namespace Quadratic.Settings

/-- The fields of the settings. -/
inductive Field
  | appName
  | logLevel
  | logFormat
deriving DecidableEq

namespace Field

/-- All fields, in the order in which they are checked. -/
def all : List Field := [appName, logLevel, logFormat]

/-- The name of a field as a keyword. -/
def name : Field → String
  | appName => "app_name"
  | logLevel => "log_level"
  | logFormat => "log_format"

end Field

end Quadratic.Settings
