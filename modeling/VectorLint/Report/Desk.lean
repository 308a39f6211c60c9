/-
Reporters in use. A handle stands for a reporter, and a clone of a handle
stands for the same one: what is done through either is done with the one
reporter that both stand for.
-/
import VectorLint.Report.Reporter

namespace VectorLint

/-- What can be done with a reporter. -/
inductive Operation
  | subscribe (listener : Listener)
  | record (entry : Entry)
  /-- Looks at everything recorded. -/
  | report
  /-- Takes away everything recorded. -/
  | take

/-- What comes of an operation: the report that it asks for, if it does, and
what happens meanwhile. -/
structure Reply where
  report? : Option Report
  notices : List Notice

/-- Carries out an operation, after what has happened so far. -/
def Reporter.perform (r : Reporter) (past : List Notice) : Operation → Reporter × Reply
  | .subscribe listener => (r.subscribe listener, ⟨none, []⟩)
  | .record entry =>
    let (r, happening) := r.record entry
    (r, ⟨none, happening past⟩)
  | .report => (r, ⟨some r.report, []⟩)
  | .take => (r.clear, ⟨some r.report, []⟩)

/-- Reporters, the handles that stand for them by their numbers, and what has
happened so far. -/
structure Desk where
  reporters : List Reporter
  handles : List (String × Nat)
  journal : List Notice

namespace Desk

inductive Action
  /-- Makes a reporter for a rule, and a handle for it. -/
  | create (handle rule : String)
  | clone (handle source : String)
  | perform (handle : String) (operation : Operation)

/-- An operation that was carried out, with the number of the reporter. -/
structure Deed where
  number : Nat
  operation : Operation
  reply : Reply

def empty : Desk := ⟨[], [], []⟩

/-- The number and the reporter that a handle stands for. -/
def find? (desk : Desk) (handle : String) : Option (Nat × Reporter) := do
  let number ← desk.handles.lookup handle
  return (number, ← desk.reporters[number]?)

/-- Carries out an action; a handle that stands for nothing does nothing. -/
def act (desk : Desk) : Action → Desk × Option Deed
  | .create handle rule =>
    ({ desk with
       reporters := desk.reporters ++ [.new rule]
       handles := (handle, desk.reporters.length) :: desk.handles }, none)
  | .clone handle source =>
    match desk.find? source with
    | none => (desk, none)
    | some (number, _) => ({ desk with handles := (handle, number) :: desk.handles }, none)
  | .perform handle operation =>
    match desk.find? handle with
    | none => (desk, none)
    | some (number, r) =>
      let (r, reply) := r.perform desk.journal operation
      ({ desk with
         reporters := desk.reporters.set number r
         journal := desk.journal ++ reply.notices }, some ⟨number, operation, reply⟩)

/-- Carries out actions in order; what was done is listed in the same order. -/
def run : Desk → List Action → Desk × List Deed
  | desk, [] => (desk, [])
  | desk, action :: actions =>
    let (desk, deed?) := desk.act action
    let (desk, deeds) := desk.run actions
    (desk, deed?.toList ++ deeds)

end Desk

end VectorLint
