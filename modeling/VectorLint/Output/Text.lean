/-
Results for people: a line for each file, its items below it, and a line of
totals.
-/
import VectorLint.Output.Style
import VectorLint.Output.Summary

namespace VectorLint

structure TextFormat where
  /-- Whether text is styled. -/
  colored : Bool
  showSource : Bool
  showLogs : Bool
  showStats : Bool
deriving DecidableEq, Repr

namespace TextFormat

def paint (f : TextFormat) (style : Style) (text : String) : String :=
  if f.colored then style.apply text else text

def severityText (f : TextFormat) (s : Severity) : String :=
  f.paint
    (match s with
      | .error => .bolded .red
      | .warning => .bolded .yellow
      | .log => .plain .blue)
    s.text

/-- Where a diagnostic lies, before its severity. -/
def placeText (d : Diagnostic) : String :=
  match d.position? with
  | some p => p.line.repr ++ ":" ++ p.column.repr ++ ": "
  | none => ""

/-- The lines of the excerpt of a diagnostic. -/
def sourceText (f : TextFormat) (d : Diagnostic) : String :=
  match d.trace? with
  | none => ""
  | some trace =>
    String.join ((Text.lines trace.toList).map fun line =>
      "  " ++ f.paint .dim (String.ofList line) ++ "\n")

def diagnosticText (f : TextFormat) (d : Diagnostic) : String :=
  "  " ++ placeText d ++ f.severityText d.severity ++ "[" ++ f.paint (.plain .cyan) d.rule ++
    "]: " ++ d.message ++ "\n" ++ (if f.showSource then f.sourceText d else "")

def exceptionText (f : TextFormat) (e : RuleException) : String :=
  "  " ++ f.paint (.bolded .magenta) "exception" ++ "[" ++ f.paint (.plain .cyan) e.rule ++
    "]: " ++ e.message ++ "\n"

def fileText (f : TextFormat) (file : FileReport) : String :=
  let verdict :=
    if file.passed then f.paint (.plain .green) "pass" else f.paint (.plain .red) "fail"
  f.paint .underlined file.input ++ " " ++ verdict ++ "\n" ++
    match file.outcome with
    | .error failure => "  " ++ f.severityText .error ++ ": " ++ failure.message ++ "\n"
    | .ok report =>
      String.join (report.exceptions.map f.exceptionText) ++
        String.join ((report.errors ++ report.warnings).map f.diagnosticText) ++
        (if f.showLogs then String.join (report.logs.map f.diagnosticText) else "")

/-- A count with its noun. -/
def plural (count : Nat) (word : String) : String :=
  if count = 1 then count.repr ++ " " ++ word else count.repr ++ " " ++ word ++ "s"

/-- The totals that are not zero. -/
def countTexts (f : TextFormat) (s : Summary) : List String :=
  let count (n : Nat) (word : String) (c : Color) : List String :=
    if n = 0 then [] else [f.paint (.plain c) (plural n word)]
  count s.exceptions "exception" .magenta ++ count s.errors "error" .red ++
    count s.warnings "warning" .yellow

def statsText (f : TextFormat) (s : Summary) : String :=
  "\n" ++ plural s.files "file" ++ " processed" ++
    (match f.countTexts s with
      | [] => ""
      | counts => ": " ++ ", ".intercalate counts) ++ "\n"

/-- The text of results. -/
def format (f : TextFormat) (files : List FileReport) : String :=
  String.join (files.map f.fileText) ++ (if f.showStats then f.statsText (.of files) else "")

end TextFormat

end VectorLint
