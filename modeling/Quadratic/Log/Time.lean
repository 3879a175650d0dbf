/-
Quadratic.Log.Time — points in time on the proleptic Gregorian calendar,
in Universal Time, to the second.

A year is taken to begin with March, so that the day that some years
have more is the last one of its year. The days then follow cycles of
400 years, each of which has the same number of days.

A point in time may be given by any value: a number of seconds, whole or
not, is rounded down to the second in which it lies (`secondsOf`).
-/
import Quadratic.Value

-- A power is the one of the core library, whatever other instances are
-- imported.
attribute [local instance (high)] instPowNat

namespace Quadratic.Log

/-! ## 1. Days -/

/-- A day of the calendar. -/
structure Day where
  year : Int
  month : Nat
  day : Nat
deriving DecidableEq

/-- The days of a cycle of 400 years. -/
abbrev daysPerCycle : Int := 146097

/-- The day that is `n` days after the first of January 1970. The count
of days starts anew at the first of March of the year 0, which is
719468 days before that day. -/
def Day.ofCount (n : Int) : Day :=
  let shifted := n + 719468
  let cycle := shifted / daysPerCycle
  let dayOfCycle := (shifted % daysPerCycle).toNat
  let yearOfCycle :=
    (dayOfCycle - dayOfCycle / 1460 + dayOfCycle / 36524 - dayOfCycle / 146096) / 365
  let dayOfYear := dayOfCycle - (365 * yearOfCycle + yearOfCycle / 4 - yearOfCycle / 100)
  let monthFromMarch := (5 * dayOfYear + 2) / 153
  let day := dayOfYear - (153 * monthFromMarch + 2) / 5 + 1
  let month := if monthFromMarch < 10 then monthFromMarch + 3 else monthFromMarch - 9
  let year := cycle * 400 + yearOfCycle + (if month ≤ 2 then 1 else 0)
  ⟨year, month, day⟩

/-- A point in time: seconds since the beginning of 1970, and thousandths
of a second. -/
structure Time where
  seconds : Int
  millis : Int
deriving DecidableEq

/-! ## 2. Seconds -/

/-- Why a value is no point in time. -/
inductive TimeError
  | notAnInteger (typeName : String)
  | notANumber
  | outOfRange
  | yearUnrepresentable
  | yearTooLarge
deriving DecidableEq

namespace TimeError

/-- The name of the kind of an error. -/
def kind : TimeError → String
  | notAnInteger _ => "TypeError"
  | notANumber => "ValueError"
  | outOfRange | yearTooLarge => "OverflowError"
  | yearUnrepresentable => "OSError"

/-- The message of an error. -/
def message : TimeError → String
  | notAnInteger t => "'" ++ t ++ "' object cannot be interpreted as an integer"
  | notANumber => "Invalid value NaN (not a number)"
  | outOfRange => "timestamp out of range for platform time_t"
  | yearUnrepresentable => "[Errno 75] Value too large for defined data type"
  | yearTooLarge => "signed integer is greater than maximum"

end TimeError

/-- The largest integer that is not above a finite number of the format. -/
def floorOf (s : Sign) (k : Nat) : Int := s.apply (Binary64.units k) / Binary64.unitsPerOne

/-- Seconds from the least integer of 64 bits up to a bound. -/
def secondsUpTo (bound i : Int) : Except TimeError Int :=
  if -(2 ^ (63 : Nat)) ≤ i ∧ i ≤ bound then .ok i else .error .outOfRange

/-- The second in which the point in time lies that a value stands for. The
largest integer of 64 bits is no number of the format, so for those the
next one is the bound. -/
def secondsOf : Value → Except TimeError Int
  | .int i => secondsUpTo (2 ^ (63 : Nat) - 1) i
  | .bool b => .ok (if b then 1 else 0)
  | .float .nan => .error .notANumber
  | .float (.infinity _) => .error .outOfRange
  | .float (.finite s k) => secondsUpTo (2 ^ (63 : Nat)) (floorOf s k)
  | .object o =>
      match o.index? with
      | some i => secondsUpTo (2 ^ (63 : Nat) - 1) i
      | none => .error (.notAnInteger o.typeName)
  | v => .error (.notAnInteger v.typeName)

/-- The day of a number of seconds, unless its year is out of range: a
year is kept as its distance from 1900 in 32 bits, and shown as a number
of 32 bits. -/
def dayOf (seconds : Int) : Except TimeError Day :=
  let day := Day.ofCount (seconds / 86400)
  if day.year - 1900 < -(2 ^ (31 : Nat)) ∨ 2 ^ (31 : Nat) ≤ day.year - 1900 then
    .error .yearUnrepresentable
  else if 2 ^ (31 : Nat) ≤ day.year then .error .yearTooLarge
  else .ok day

/-- A number in at least two digits. -/
def twoDigits (n : Nat) : String := String.ofList (Decimal.padded 2 (Nat.toDigits 10 n))

/-- The time of day in a number of seconds. -/
def timeOfDay (seconds : Int) : String :=
  let second := (seconds % 86400).toNat
  twoDigits (second / 3600) ++ ":" ++ twoDigits (second / 60 % 60) ++ ":" ++
    twoDigits (second % 60)

/-- The text of a point in time, to the second. -/
def secondText (created : Value) : Except TimeError String := do
  let seconds ← secondsOf created
  let day ← dayOf seconds
  return toString day.year ++ "-" ++ twoDigits day.month ++ "-" ++ twoDigits day.day ++ " " ++
    timeOfDay seconds

end Quadratic.Log
