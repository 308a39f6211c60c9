/-
Linting. A run reads the document, resolves the rule instances, lets them
all go on together and gathers their reports in the order of the instances.
Besides its outcome a run has a journal: what was logged and what listeners
were told, in order.
-/
import VectorLint.Document.Parse
import VectorLint.Rule.Builtin
import VectorLint.Run.Input
import VectorLint.Run.Task

namespace VectorLint

structure Linter where
  settings : RuleSettings
  registry : Registry
  listeners : List Listener

structure RunResult where
  outcome : Except ParseFailure Report
  journal : List Notice

/-- The text of the file of the given name, if it can be read as text. -/
abbrev ReadText := String → Option (List Char)

/-- The text to lint, and the path it was read from: an input that names a
readable file is that file, any other is the text itself. -/
def resolveInput (read : ReadText) (input : String) : List Char × Context :=
  if looksLikePath input then
    match read input with
    | some text => (text, ⟨some input⟩)
    | none => (input.toList, ⟨none⟩)
  else (input.toList, ⟨none⟩)

/-- The failure of an input that is no document. -/
def ParseFailure.ofError (input : String) (e : ParseError) : ParseFailure :=
  let name := displayName input
  ⟨name, "Error in " ++ name ++ ": SVG parsing error: " ++ e.message⟩

namespace Linter

/-- The instances that can be resolved, and a warning for each other. -/
def resolveAll (registry : Registry) :
    List RuleInstance → List (String × Rule) × List Notice
  | [] => ([], [])
  | i :: instances =>
    let (rules, notices) := resolveAll registry instances
    match registry.resolve i.name i.options with
    | .ok rule => ((i.name, rule) :: rules, notices)
    | .error e => (rules, .logged .warn (e.message ++ ". It will be ignored") :: notices)

/-- A task for a rule, at its start. -/
def startTask (listeners : List Listener) (d : Document) (context : Context)
    (rule : String × Rule) : Task :=
  ⟨⟨rule.1, listeners, []⟩, some (rule.2.check d context)⟩

/-- Lints a document, polling the tasks as `schedule` says. What listeners
remember begins with the first poll. -/
def runDocument (l : Linter) (schedule : List Task → List Nat) (d : Document)
    (context : Context) : Report × List Notice :=
  let (rules, warnings) := resolveAll l.registry l.settings.instances
  let tasks := rules.map (startTask l.listeners d context)
  let (tasks, happening) := Task.runSchedule (schedule tasks) tasks
  let report := Task.mergedReport tasks
  (report, warnings ++
    .logged .debug ("Running " ++ rules.length.repr ++ " rule instance(s)") :: happening [] ++
    [.logged .debug ("Finished with " ++ report.exceptions.length.repr ++ " exception(s), " ++
      report.errors.length.repr ++ " error(s), " ++ report.warnings.length.repr ++
      " warning(s)")])

/-- Lints an input. -/
def run (l : Linter) (read : ReadText) (input : String) : RunResult :=
  let (text, context) := resolveInput read input
  let opening : Notice := .logged .debug ("Linting " ++ displayName input)
  match Document.parse text with
  | .error e => ⟨.error (.ofError input e), [opening]⟩
  | .ok d =>
    let (report, journal) := l.runDocument Task.roundRobin d context
    ⟨.ok report, opening :: journal⟩

/-- The issues of a run: its parse failure, or else the verdict. -/
def issues (r : RunResult) : Except (List Issue) Unit :=
  match r.outcome with
  | .error failure => .error [.parse failure]
  | .ok report => report.verdict

/-- Lints an input down to its issues. -/
def lint (l : Linter) (read : ReadText) (input : String) : Except (List Issue) Unit :=
  issues (l.run read input)

/-- Lints an input and hands the issues to `callback` too. -/
def lintWith {α : Type} (l : Linter) (read : ReadText) (input : String)
    (callback : Except (List Issue) Unit → α) : Except (List Issue) Unit × α :=
  let outcome := l.lint read input
  (outcome, callback outcome)

end Linter

end VectorLint
