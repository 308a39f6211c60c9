/-
Reporters: each rule instance records through its own. What is recorded is
announced to listeners, one after the other; a listener that panics is
noted, and stops neither the next one nor the recording.
-/
import VectorLint.Report.Basic
import VectorLint.Text.Quoted

namespace VectorLint

/-- What a panic carries: a text, or anything else. -/
inductive Panic
  | text (s : String)
  | other
deriving DecidableEq, Repr

def Panic.message : Panic → String
  | .text s => s
  | .other => "rule panicked"

inductive Level
  | debug
  | warn
deriving DecidableEq, Repr

/-- What happens outside of the reports: a line is logged, or a listener is
told an event of a rule. -/
inductive Notice
  | logged (level : Level) (text : String)
  | told (listener : String) (rule : String) (event : Event)

/-- An event as a listener is told it. A listener may remember what went
before, so all of that comes with the event. -/
structure Telling where
  event : Event
  past : List Notice

instance : Coe Telling Event := ⟨Telling.event⟩

/-- An observer of events, and how it panics if it does. -/
structure Listener where
  name : String
  panic? : Telling → Option Panic

/-- What happens, by what has happened before. -/
abbrev Happening := List Notice → List Notice

namespace Happening

def nothing : Happening := fun _ => []

/-- One thing that happens, whatever has happened before. -/
def one (notice : Notice) : Happening := fun _ => [notice]

/-- The one and behind it the other, which has the first in its past. -/
def andThen (a b : Happening) : Happening := fun past =>
  let first := a past
  first ++ b (past ++ first)

end Happening

/-- What a rule asks to record. -/
inductive Entry
  | exception (reason : String)
  | diagnostic (severity : Severity) (message : Message) (node : Option NodeRef)

/-- The event of an entry of a rule. -/
def Entry.event (rule : String) : Entry → Event
  | .exception reason => .exception ⟨rule, reason⟩
  | .diagnostic severity message node =>
    let d : Diagnostic := ⟨rule, severity, message, node⟩
    match severity with
    | .error => .error d
    | .warning => .warning d
    | .log => .log d

/-- The line logged for an entry. -/
def Entry.line (rule : String) : Entry → String
  | .exception reason => "[" ++ rule ++ "] Exception reported: " ++ reason
  | .diagnostic severity message _ =>
    "[" ++ rule ++ "] " ++ severity.text ++ " reported: " ++ message.text

structure Reporter where
  name : String
  listeners : List Listener
  /-- What is recorded, the newest first. -/
  recorded : List Event

namespace Reporter

def new (name : String) : Reporter := ⟨name, [], []⟩

/-- The reporter for a reader. -/
def describe (r : Reporter) : String :=
  "Reporter \x7b name: " ++ Text.quoted r.name ++ " \x7d"

/-- Adds a listener behind the others; it is told what is recorded from then
on. -/
def subscribe (r : Reporter) (listener : Listener) : Reporter :=
  { r with listeners := r.listeners ++ [listener] }

/-- Tells a listener an event. -/
def tell (rule : String) (event : Event) (listener : Listener) : Happening := fun past =>
  .told listener.name rule event ::
    match listener.panic? ⟨event, past⟩ with
    | none => []
    | some panic => [.logged .warn ("[" ++ rule ++ "] Listener panicked: " ++ panic.message)]

/-- Tells listeners an event, one after the other. -/
def tellAll (rule : String) (event : Event) : List Listener → Happening
  | [] => .nothing
  | listener :: listeners => (tell rule event listener).andThen (tellAll rule event listeners)

/-- Records an entry: it is logged, told to every listener and kept. -/
def record (r : Reporter) (entry : Entry) : Reporter × Happening :=
  let event := entry.event r.name
  ({ r with recorded := event :: r.recorded },
    (Happening.one (.logged .debug (entry.line r.name))).andThen (tellAll r.name event r.listeners))

/-- Records entries in order. -/
def recordAll (r : Reporter) : List Entry → Reporter × Happening
  | [] => (r, .nothing)
  | entry :: entries =>
    let (r, first) := r.record entry
    let (r, rest) := r.recordAll entries
    (r, first.andThen rest)

/-- Everything recorded so far. -/
def report (r : Reporter) : Report :=
  .ofEvents r.recorded.reverse

/-- The reporter with nothing recorded. -/
def clear (r : Reporter) : Reporter :=
  { r with recorded := [] }

end Reporter

end VectorLint
