/-
Results for programs: one JSON value with the files and the totals.
-/
import VectorLint.Output.Summary

namespace VectorLint

structure JsonFormat where
  pretty : Bool
deriving DecidableEq, Repr

namespace JsonFormat

/-- A member that is there only if it has a value. -/
def optional (key : String) (v : Option Json.Value) : List (String × Json.Value) :=
  match v with
  | none => []
  | some v => [(key, v)]

/-- Line, column and source line are there if the diagnostic has a node. -/
def diagnosticValue (d : Diagnostic) : Json.Value :=
  .object ([("rule", .string d.rule), ("severity", .string d.severity.text),
    ("message", .string d.message), ("parts", .array d.raw.parts)] ++
    optional "line" (d.position?.map fun p => .ofNat p.line) ++
    optional "column" (d.position?.map fun p => .ofNat p.column) ++
    optional "source_line" ((d.node.bind NodeRef.sourceLine?).map .string))

def exceptionValue (e : RuleException) : Json.Value :=
  .object [("rule", .string e.rule), ("message", .string e.message)]

def fileValue (f : FileReport) : Json.Value :=
  let (failure, exceptions, diagnostics) := match f.outcome with
    | .ok r => (none, r.exceptions, r.errors ++ r.warnings ++ r.logs)
    | .error failure => (some failure.message, [], [])
  .object ([("file", .string f.input), ("passed", .bool f.passed)] ++
    optional "parse_error" (failure.map .string) ++
    [("exceptions", .array (exceptions.map exceptionValue)),
      ("diagnostics", .array (diagnostics.map diagnosticValue))])

def summaryValue (s : Summary) : Json.Value :=
  .object [("files_processed", .ofNat s.files), ("files_failed", .ofNat s.failed),
    ("exception_count", .ofNat s.exceptions), ("error_count", .ofNat s.errors),
    ("warning_count", .ofNat s.warnings)]

def resultsValue (files : List FileReport) : Json.Value :=
  .object [("files", .array (files.map fileValue)), ("summary", summaryValue (.of files))]

def render (f : JsonFormat) (v : Json.Value) : String :=
  if f.pretty then v.pretty else v.compact

def diagnosticText (f : JsonFormat) (d : Diagnostic) : String :=
  f.render (diagnosticValue d)

/-- The text of results. -/
def format (f : JsonFormat) (files : List FileReport) : String :=
  f.render (resultsValue files)

end JsonFormat

end VectorLint
