/-
Quadratic.Main — the console program.

The calculator is a function of the whole input, but its prompts have to
appear while the input is still being typed. What it writes for a part
of the input is the beginning of what it writes for more of it. So the
program runs it on the lines that have come so far, writes what is new,
and asks for another line only if the run still lacks a coefficient.
-/
import Std.Time.DateTime.Timestamp
import Quadratic.Session

namespace Quadratic

open Session

/-- The variables of a block of `NAME=value` entries, each ended by a NUL. -/
def environmentOf (block : String) : Settings.Environment :=
  ((block.splitOn "\x00").filter (· ≠ "")).map fun entry =>
    match entry.splitOn "=" with
    | name :: parts => (name, String.intercalate "=" parts)
    | [] => (entry, "")

/-- The environment of the process. It is empty if it cannot be read. -/
def processEnvironment : IO Settings.Environment := do
  try
    let bytes ← IO.FS.readBinFile "/proc/self/environ"
    return environmentOf ((String.fromUTF8? bytes).getD "")
  catch _ => return []

/-- The time of day. -/
def currentTime : IO Log.Time := do
  let now ← Std.Time.Timestamp.now
  return ⟨now.toSecondsSinceUnixEpoch.val, 0⟩

/-- The input, line by line, until the run has all it needs or the input
ends. New output is written before each line is asked for. -/
partial def converse (stdin stdout : IO.FS.Stream) (input : List Char) (written : Nat) :
    IO (List Char) := do
  let r := Console.run input
  let text := r.written.toList
  stdout.putStr (String.ofList (text.drop written))
  stdout.flush
  if r.value.isSome then return input
  let line ← stdin.getLine
  if line.isEmpty then return input
  converse stdin stdout (input ++ line.toList) text.length

end Quadratic

open Quadratic Session in
/-- The console program. It takes no arguments; its exit code tells
whether the input held three coefficients. -/
def main : IO UInt32 := do
  let stdin ← IO.getStdin
  let stdout ← IO.getStdout
  let stderr ← IO.getStderr
  let environment ← processEnvironment
  let clock ← currentTime
  let input ← converse stdin stdout [] 0
  let (_, answer) := step (State.initial environment clock) (.run input)
  for e in answer.written do
    stderr.putStr e.text
  match answer.outcome with
  | .exited code _ => return code.toUInt32
  | _ => return 1
