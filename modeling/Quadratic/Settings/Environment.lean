/-
Quadratic.Settings.Environment — environment variables.

They keep the order in which they were first set. Some names and values
are refused; the removal of a variable never fails.
-/
import Quadratic.Value

namespace Quadratic.Settings

/-- Environment variables, in the order in which they were first set. -/
abbrev Environment := List (String × String)

/-- Why a variable cannot be set. -/
inductive EnvironmentError
  | embeddedNul
  | equalsSign
  | emptyName
deriving DecidableEq

namespace EnvironmentError

/-- The name of the kind of an error. -/
def kind : EnvironmentError → String
  | embeddedNul | equalsSign => "ValueError"
  | emptyName => "OSError"

/-- The message of an error. -/
def message : EnvironmentError → String
  | embeddedNul => "embedded null byte"
  | equalsSign => "illegal environment variable name"
  | emptyName => "[Errno 22] Invalid argument"

end EnvironmentError

namespace Environment

/-- The environment with a variable set. -/
def set (env : Environment) (name value : String) : Except EnvironmentError Environment :=
  if '\x00' ∈ name.toList ∨ '\x00' ∈ value.toList then .error .embeddedNul
  else if '=' ∈ name.toList then .error .equalsSign
  else if name = "" then .error .emptyName
  else .ok (Value.put name value env)

/-- The environment without a variable. -/
def remove (env : Environment) (name : String) : Environment :=
  env.filter fun m => m.1 ≠ name

/-- The environment after one variable is set or removed. -/
def change (env : Environment) (name : String) :
    Option String → Except EnvironmentError Environment
  | some value => env.set name value
  | none => .ok (env.remove name)

/-- The environment after a row of changes. At the first one that fails
the row ends, and the changes before it stay. -/
def changeAll (env : Environment) :
    List (String × Option String) → Environment × Option EnvironmentError
  | [] => (env, none)
  | (name, value) :: changes =>
      match env.change name value with
      | .ok env => changeAll env changes
      | .error e => (env, some e)

end Environment

end Quadratic.Settings
