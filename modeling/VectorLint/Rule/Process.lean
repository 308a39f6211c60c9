/-
Rules and what they do. A rule turns a document into a process: a course of
entries to record, which may give up its turn in between and ends with
findings or fails. A process sees nothing of other processes.
-/
import VectorLint.Report.Reporter

namespace VectorLint

/-- An error that a rule returns instead of recording it. -/
structure Finding where
  message : Message
  node : Option NodeRef

/-- How a rule fails: with an error, the outermost reason first, or by a
panic. -/
inductive Failure
  | error (chain : List String)
  | panic (p : Panic)
deriving DecidableEq, Repr

def Failure.message : Failure → String
  | .error chain => ": ".intercalate chain
  | .panic p => p.message

inductive Process
  | record (entry : Entry) (next : Process)
  /-- Lets the other processes go on. -/
  | suspend (next : Process)
  | finish (findings : List Finding)
  | fail (failure : Failure)

namespace Process

def recordAll (entries : List Entry) (next : Process) : Process :=
  entries.foldr .record next

/-- How often a process gives up its turn. -/
def suspensions : Process → Nat
  | .record _ next => next.suspensions
  | .suspend next => next.suspensions + 1
  | .finish _ | .fail _ => 0

end Process

/-- What a rule knows besides the document: the path of the file, if the
input was one. -/
structure Context where
  filepath : Option String
deriving DecidableEq, Repr

structure Rule where
  check : Document → Context → Process

namespace Rule

/-- The rule that reports nothing. -/
def idle : Rule := ⟨fun _ _ => .finish []⟩

/-- A rule that records errors and is done. -/
def ofErrors (errors : Document → List (Message × Option NodeRef)) : Rule :=
  ⟨fun d _ => .recordAll ((errors d).map fun (m, node) => .diagnostic .error m node) (.finish [])⟩

end Rule

end VectorLint
