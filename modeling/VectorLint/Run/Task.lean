/-
Rule instances in action. A task is polled: it goes on to where it gives up
its turn, or to its end. A schedule says in which order tasks are polled;
polling a task that has ended does nothing.
-/
import VectorLint.Rule.Process

namespace VectorLint

/-- A reporter, and what is left to do with it; nothing once it has ended. -/
structure Task where
  reporter : Reporter
  rest : Option Process

namespace Task

/-- Findings are recorded as errors. -/
def findingEntry (f : Finding) : Entry :=
  .diagnostic .error f.message f.node

/-- Carries out a process up to its next suspension or its end. -/
def advance (r : Reporter) : Process → Task × Happening
  | .record entry next =>
    let (r, first) := r.record entry
    let (task, rest) := advance r next
    (task, first.andThen rest)
  | .suspend next => (⟨r, some next⟩, .nothing)
  | .finish findings =>
    let (r, happening) := r.recordAll (findings.map findingEntry)
    (⟨r, none⟩, happening)
  | .fail failure =>
    let (r, happening) := r.record (.exception failure.message)
    (⟨r, none⟩, happening)

def poll (t : Task) : Task × Happening :=
  match t.rest with
  | none => (t, .nothing)
  | some process => advance t.reporter process

def isDone (t : Task) : Bool :=
  t.rest.isNone

/-- How often a task has to be polled until it has ended. -/
def turns (t : Task) : Nat :=
  match t.rest with
  | none => 0
  | some process => process.suspensions + 1

/-- Polls the task at an index. -/
def pollAt (i : Nat) (tasks : List Task) : List Task × Happening :=
  match tasks[i]? with
  | none => (tasks, .nothing)
  | some t =>
    let (t, happening) := t.poll
    (tasks.set i t, happening)

/-- Polls tasks in the order of a schedule. -/
def runSchedule : (schedule : List Nat) → List Task → List Task × Happening
  | [], tasks => (tasks, .nothing)
  | i :: schedule, tasks =>
    let (tasks, first) := pollAt i tasks
    let (tasks, rest) := runSchedule schedule tasks
    (tasks, first.andThen rest)

/-- The rounds in which each unfinished task is polled once, in order, until
all have ended. -/
def roundRobin (tasks : List Task) : List Nat :=
  let rounds := (tasks.map turns).foldl max 0
  (List.range rounds).flatMap fun round =>
    (List.range tasks.length).filter fun i => tasks[i]?.any fun t => round < t.turns

/-- The reports of tasks, one after the other. -/
def mergedReport (tasks : List Task) : Report :=
  tasks.foldl (fun report t => report ++ t.reporter.report) .empty

end Task

end VectorLint
