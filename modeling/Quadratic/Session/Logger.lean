/-
Quadratic.Session.Logger — the logger that all parts of the calculator
write to.

It has at most one handler, which is installed together with a
threshold and taken away again by a reset. While a handler is installed
nothing is passed on to the outermost logger.
-/
import Quadratic.Log.Record

namespace Quadratic.Session

open Log (LineFormat LevelName)

/-! ## 1. Thresholds -/

/-- The severity from which on a logger passes records. It may be given as
a truth value, which counts as one or zero and is shown as it was
given. -/
inductive Threshold
  | number (n : Int)
  | flag (b : Bool)
deriving DecidableEq

/-- The threshold as a number. -/
def Threshold.toInt : Threshold → Int
  | number n => n
  | flag b => if b then 1 else 0

/-- Why a value is no threshold. -/
inductive ThresholdError
  | unknownName (name : String)
  | notALevel (value : String)
deriving DecidableEq

/-- The message of an error. -/
def ThresholdError.message : ThresholdError → String
  | unknownName s => "Unknown level: " ++ Text.quoted s
  | notALevel v => "Level not an integer or a valid string: " ++ v

/-- The threshold that a value stands for. -/
def thresholdOf : Value → Except ThresholdError Threshold
  | .int n => .ok (.number n)
  | .bool b => .ok (.flag b)
  | .string s =>
      match LevelName.ofText? s with
      | some l => .ok (.number l.number)
      | none => .error (.unknownName s)
  | v => .error (.notALevel v.inspect)

/-! ## 2. The logger -/

/-- A handler: the form of its lines, and the number of the error stream
that it writes to. -/
structure Handler where
  format : LineFormat
  stream : Nat
deriving DecidableEq

/-- The logger of the calculator. -/
structure Logger where
  configured : Bool
  installed : Option Handler
  threshold : Threshold
  propagates : Bool
  handlers : List Handler
deriving DecidableEq

namespace Logger

/-- A logger that was never configured. -/
def initial : Logger := ⟨false, none, .number 0, true, []⟩

/-- The logger with a handler of its own, and nothing passed on. -/
def install (l : Logger) (h : Handler) (t : Threshold) : Logger :=
  { l with
    configured := true
    installed := some h
    threshold := t
    propagates := false
    handlers := l.handlers ++ [h] }

/-- The logger without the handler that was installed. -/
def reset (l : Logger) : Logger where
  configured := false
  installed := none
  threshold := .number 0
  propagates := true
  handlers := match l.installed with
    | some h => l.handlers.erase h
    | none => l.handlers

/-- The name of the calculator's logger. -/
def name : String := "src"

/-- The severity from which on a logger below this one passes records:
its threshold, or that of the outermost logger if it is zero. -/
def effectiveLevel (l : Logger) : Int :=
  if l.threshold.toInt = 0 then Log.outermostLevel else l.threshold.toInt

end Logger

end Quadratic.Session
