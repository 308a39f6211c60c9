/-
The command line: it loads the configuration, collects the files and lints
them. What a command prints and how it exits follow from the files there are.
-/
import VectorLint.Command.Arguments
import VectorLint.Config.Load
import VectorLint.Glob.Search
import VectorLint.Output.Json
import VectorLint.Output.Text
import VectorLint.Run.Linter

namespace VectorLint.Command

/-- Why a command lints nothing. -/
inductive Problem
  | config (e : ConfigError)
  | noFilesGiven
  | pattern (text : String) (fault : Glob.Fault)
  | noFilesFound
deriving DecidableEq, Repr

def Problem.message : Problem → String
  | .config e => "Failed to load config: " ++ e.message
  | .noFilesGiven => "No files specified"
  | .pattern text fault => "Invalid pattern '" ++ text ++ "': " ++ fault.message
  | .noFilesFound => "No files found to lint"

/-- What a command does in the end. -/
structure Outcome where
  exitCode : Nat
  output : String
  errors : String
deriving DecidableEq, Repr

/-! ## Collecting files -/

/-- The files that an argument names: the file of that name, or else those
that match it as a pattern. -/
def filesNamed (fs : FileSystem) (argument : String) : Except Problem (List String) :=
  if fs.isFile argument then .ok [argument]
  else
    match Glob.search fs argument with
    | .ok paths => .ok (paths.filter fs.isFile)
    | .error fault => .error (.pattern argument fault)

/-- The patterns among texts; a text that is no pattern ignores nothing. -/
def ignorePatterns (texts : List String) : List Glob.Pattern :=
  texts.filterMap fun text => (Glob.Pattern.parse text).toOption

/-- The files that arguments name and no pattern ignores. -/
def collectFiles (fs : FileSystem) (arguments ignore : List String) :
    Except Problem (List String) := do
  let files := (← arguments.mapM (filesNamed fs)).flatten
  return files.filter fun file => !(ignorePatterns ignore).any (·.isMatch file)

/-! ## Linting -/

def loadConfig (fs : FileSystem) (i : Invocation) : Except ConfigError Config :=
  match i.config with
  | some path => Config.load fs.readText path
  | none => Config.loadDefault fs

def lintFile (fs : FileSystem) (rules : RuleSettings) (file : String) : FileReport :=
  ⟨file, ((⟨rules, .builtin, []⟩ : Linter).run (fun path => (fs.readText path).toOption) file).outcome⟩

/-- The reports of the files of a command. -/
def lintFiles (fs : FileSystem) (i : Invocation) : Except Problem (List FileReport) := do
  let config ← (loadConfig fs i).mapError .config
  if i.files.isEmpty then throw .noFilesGiven
  let files ← collectFiles fs i.files config.ignore
  if files.isEmpty then throw .noFilesFound
  return files.map (lintFile fs config.rules)

/-! ## Output -/

/-- The text of reports; whether it is colored is up to the command and the
terminal. -/
def render (i : Invocation) (terminal : Bool) (reports : List FileReport) : String :=
  match i.output with
  | .text => (⟨terminal && !i.noColor, true, i.verbose, true⟩ : TextFormat).format reports
  | .json => (⟨true⟩ : JsonFormat).format reports

/-- A command succeeds when every file passes. -/
def exitCode (reports : List FileReport) : Nat :=
  if reports.all FileReport.passed then 0 else 1

def programName : String := "svglint"

def version : String := "0.1.0"

def usage : String := "Usage: " ++ programName ++ " [OPTIONS] <FILES>..."

def helpText : String :=
  "Lints SVG files against a configurable set of rules (attr, elm, custom).\n\n" ++ usage ++
    "\n\nOptions:\n" ++
    "  -c, --config <CONFIG>  Configuration file path\n" ++
    "  -f, --format <FORMAT>  Output format [default: text] [possible values: text, json]\n" ++
    "  -v, --verbose          Enable verbose output\n" ++
    "      --no-color         Disable colored output\n" ++
    "      --list-rules       List available rules and exit\n" ++
    "  -h, --help             Print help\n" ++
    "  -V, --version          Print version\n"

/-- The lines that tell of a problem. -/
def problemText (paint : Style → String → String) (p : Problem) : String :=
  let hint := match p with
    | .noFilesGiven => "\n" ++ usage ++ "\n\nFor more information, try '--help'\n"
    | _ => ""
  paint (.bolded .red) "error" ++ ": " ++ p.message ++ "\n" ++ hint

/-- The names of the rules there are, one on a line. -/
def ruleList (paint : Style → String → String) (registry : Registry) : String :=
  paint ⟨true, false, false, none⟩ "Available rules:" ++ "\n" ++
    String.join (registry.names.map fun name => "  " ++ paint (.plain .cyan) name ++ "\n")

/-- Carries out an invocation. -/
def Invocation.run (fs : FileSystem) (terminal : Bool) (i : Invocation) : Outcome :=
  let paint (style : Style) (text : String) : String :=
    if terminal && !i.noColor then style.apply text else text
  if i.listRules then ⟨0, ruleList paint .builtin, ""⟩
  else
    match lintFiles fs i with
    | .ok reports => ⟨exitCode reports, render i terminal reports, ""⟩
    | .error p => ⟨2, "", problemText paint p⟩

/-- Carries out a command line. -/
def run (fs : FileSystem) (terminal : Bool) (args : List String) : Outcome :=
  match Invocation.parse args with
  | .ok i => i.run fs terminal
  | .error .version => ⟨0, programName ++ " " ++ version ++ "\n", ""⟩
  | .error .help => ⟨0, helpText, ""⟩
  | .error .misuse => ⟨2, "", "error: unexpected arguments\n\n" ++ usage ++ "\n"⟩

end VectorLint.Command
