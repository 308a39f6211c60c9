/-
What a rule can report about a document, and what a run can fail with.
-/
import VectorLint.Document.Navigation
import VectorLint.Report.Message

namespace VectorLint

/-- A node of a document, with the document. -/
structure NodeRef where
  document : Document
  id : Fin document.nodes.size

namespace NodeRef

def node (r : NodeRef) : Node :=
  r.document.nodes[r.id]

def sourceLine? (r : NodeRef) : Option String :=
  r.document.sourceLine? r.node

end NodeRef

def Document.ref? (d : Document) (id : NodeId) : Option NodeRef :=
  if h : id < d.nodes.size then some ⟨d, id, h⟩ else none

inductive Severity
  | log
  | warning
  | error
deriving DecidableEq, Repr

def Severity.text : Severity → String
  | .log => "log"
  | .warning => "warning"
  | .error => "error"

/-- A reported item. -/
structure Diagnostic where
  rule : String
  severity : Severity
  raw : Message
  node : Option NodeRef

namespace Diagnostic

def message (d : Diagnostic) : String :=
  d.rule ++ ": " ++ d.raw.text

def isError (d : Diagnostic) : Bool :=
  d.severity = .error

def position? (d : Diagnostic) : Option Text.Position :=
  d.node.map (·.node.position)

/-- The width of the line numbers in an excerpt. -/
def gutter : Nat := 4

/-- The text, with blanks before it up to the given width. -/
def alignRight (width : Nat) (s : String) : String :=
  String.ofList (List.replicate (width - s.length) ' ') ++ s

/-- The source line on which the node starts, and below it a caret under its
first character. -/
def trace? (d : Diagnostic) : Option String := do
  let r ← d.node
  let line ← r.sourceLine?
  let p := r.node.position
  return alignRight gutter p.line.repr ++ " | " ++ line ++ "\n" ++ alignRight gutter "" ++ " | " ++
    alignRight (p.column - 1) "" ++ "^"

end Diagnostic

/-- A rule that failed instead of completing. -/
structure RuleException where
  rule : String
  reason : String
deriving DecidableEq, Repr

def RuleException.message (e : RuleException) : String :=
  e.rule ++ ": " ++ e.reason

/-- An input that is no document, under its display name. -/
structure ParseFailure where
  input : String
  message : String
deriving DecidableEq, Repr

/-- One entry of a failed run. -/
inductive Issue
  | parse (f : ParseFailure)
  | exception (e : RuleException)
  | error (d : Diagnostic)

namespace Issue

def message : Issue → String
  | .parse f => f.message
  | .exception e => e.message
  | .error d => d.message

/-- The rule an issue belongs to; a parse failure belongs to none. -/
def rule? : Issue → Option String
  | .parse _ => none
  | .exception e => some e.rule
  | .error d => some d.rule

def isException : Issue → Bool
  | .exception _ => true
  | _ => false

end Issue

end VectorLint
