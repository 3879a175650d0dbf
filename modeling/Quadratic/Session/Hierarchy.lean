/-
Quadratic.Session.Hierarchy — loggers by name, and which of them are parts
of the calculator's.

Names have dots in them, and a logger is below another one if its own name
begins with the name of the other and a dot. Its parent is found by going
through its name from right to left and trying what stands before a dot:
the first logger that exists is the parent, and if there is none the
outermost logger is. The search goes on two places before each dot, so that
of two dots side by side the left one is passed over. Whether `src..x`
reaches `src` depends therefore on whether there is a logger `src.`, while
`src.x` always does.

A logger exists from the moment on in which it is first asked for. It keeps
in mind for each severity whether it passes, until a threshold is set.
-/
import Quadratic.Session.Logger

namespace Quadratic.Session

/-- The loggers that exist, and what has been decided about severities. -/
structure Hierarchy where
  made : List String
  decided : List ((String × Int) × Bool)
deriving DecidableEq

namespace Hierarchy

/-- The loggers of the calculator. -/
def own : List String :=
  [Logger.name, "src.calculator.app", "src.calculator.reader", "src.core.math.discriminant"]

/-- The hierarchy at the start. -/
def initial : Hierarchy := ⟨own, []⟩

/-- Whether the parents that are found from the end of a name on lead to
the calculator's logger. The name is given from right to left. -/
def reaches (made : List String) : List Char → Bool
  | [] => false
  | '.' :: c :: cs =>
      let parent := String.ofList (c :: cs).reverse
      if parent ∈ made then parent = Logger.name || reaches made (c :: cs)
      else reaches made cs
  | _ :: cs => reaches made cs

/-- Whether a name is that of the calculator's logger or of one below it. -/
def isWithin (h : Hierarchy) (name : String) : Bool :=
  name = Logger.name || reaches h.made name.toList.reverse

/-- The hierarchy with a logger in it that is asked for. -/
def ask (h : Hierarchy) (name : String) : Hierarchy :=
  if name ∈ h.made then h else { h with made := name :: h.made }

/-- What has been decided about a severity. -/
def decision? (h : Hierarchy) (name : String) (level : Int) : Option Bool :=
  (h.decided.find? fun d => d.1 = (name, level)).map (·.2)

/-- The hierarchy with a decision kept in mind. -/
def decide (h : Hierarchy) (name : String) (level : Int) (passes : Bool) : Hierarchy :=
  { h with decided := ((name, level), passes) :: h.decided }

/-- The hierarchy without decisions. -/
def forget (h : Hierarchy) : Hierarchy := { h with decided := [] }

end Hierarchy

end Quadratic.Session
