/-
Reports: what rules reported in one run, each kind in its own sequence.
-/
import VectorLint.Report.Diagnostic

namespace VectorLint

/-- An item as it is recorded. -/
inductive Event
  | exception (e : RuleException)
  | error (d : Diagnostic)
  | warning (d : Diagnostic)
  | log (d : Diagnostic)

namespace Event

def message : Event → String
  | .exception e => e.message
  | .error d | .warning d | .log d => d.message

def exception? : Event → Option RuleException
  | .exception e => some e
  | _ => none

def error? : Event → Option Diagnostic
  | .error d => some d
  | _ => none

def warning? : Event → Option Diagnostic
  | .warning d => some d
  | _ => none

def log? : Event → Option Diagnostic
  | .log d => some d
  | _ => none

end Event

structure Report where
  exceptions : List RuleException
  errors : List Diagnostic
  warnings : List Diagnostic
  logs : List Diagnostic

namespace Report

def empty : Report := ⟨[], [], [], []⟩

/-- The report of a sequence of events. -/
def ofEvents (events : List Event) : Report where
  exceptions := events.filterMap Event.exception?
  errors := events.filterMap Event.error?
  warnings := events.filterMap Event.warning?
  logs := events.filterMap Event.log?

/-- The items of one report and then of another, kind by kind. -/
def append (a b : Report) : Report where
  exceptions := a.exceptions ++ b.exceptions
  errors := a.errors ++ b.errors
  warnings := a.warnings ++ b.warnings
  logs := a.logs ++ b.logs

instance : Append Report := ⟨append⟩

/-- A run passes when no rule failed and none reported an error. -/
def passed (r : Report) : Bool :=
  r.exceptions.isEmpty && r.errors.isEmpty

def size (r : Report) : Nat :=
  r.exceptions.length + r.errors.length + r.warnings.length + r.logs.length

def isEmpty (r : Report) : Bool :=
  r.size = 0

/-- Passes with a report that does; fails with its exceptions and then its
errors. -/
def verdict (r : Report) : Except (List Issue) Unit :=
  if r.passed then .ok () else .error (r.exceptions.map .exception ++ r.errors.map .error)

theorem ofEvents_append (a b : List Event) : ofEvents (a ++ b) = ofEvents a ++ ofEvents b := by
  simp only [ofEvents, List.filterMap_append]
  rfl

end Report

end VectorLint
