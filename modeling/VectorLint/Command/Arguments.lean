/-
The arguments of the command line. An option has a long name and mostly a
letter; its value is joined to it, by an equals sign if one likes, or is the
next argument. Letters may share a dash. Behind `--` every argument is a file.
-/
namespace VectorLint.Command

inductive OutputKind
  | text
  | json
deriving DecidableEq, Repr

def OutputKind.ofWord? : String → Option OutputKind
  | "text" => some .text
  | "json" => some .json
  | _ => none

/-- What a command line asks for. -/
structure Invocation where
  /-- Files, or patterns of files. -/
  files : List String
  /-- The path of the configuration. -/
  config : Option String
  output : OutputKind
  verbose : Bool
  noColor : Bool
  listRules : Bool
deriving DecidableEq, Repr

/-- Why the arguments ask for no run. -/
inductive Stop
  | version
  | help
  | misuse
deriving DecidableEq, Repr

inductive ValueOption
  | config
  | format
deriving DecidableEq, Repr

inductive Switch
  | verbose
  | noColor
  | listRules
deriving DecidableEq, Repr

inductive OptionName
  | valued (o : ValueOption)
  | switch (s : Switch)
  | stop (s : Stop)
deriving DecidableEq, Repr

namespace OptionName

def ofLong? : String → Option OptionName
  | "config" => some (.valued .config)
  | "format" => some (.valued .format)
  | "verbose" => some (.switch .verbose)
  | "no-color" => some (.switch .noColor)
  | "list-rules" => some (.switch .listRules)
  | "version" => some (.stop .version)
  | "help" => some (.stop .help)
  | _ => none

def ofLetter? : Char → Option OptionName
  | 'c' => some (.valued .config)
  | 'f' => some (.valued .format)
  | 'v' => some (.switch .verbose)
  | 'V' => some (.stop .version)
  | 'h' => some (.stop .help)
  | _ => none

end OptionName

/-- The arguments so far; each option may be given once. -/
structure Draft where
  /-- The newest first. -/
  files : List String
  config : Option String
  output : Option OutputKind
  switches : List Switch
deriving DecidableEq, Repr

namespace Draft

def empty : Draft := ⟨[], none, none, []⟩

def addFile (d : Draft) (file : String) : Draft :=
  { d with files := file :: d.files }

/-- Gives an option its value. The path of a configuration is not empty, and
the format is one that there is. -/
def setValue (d : Draft) (o : ValueOption) (value : String) : Except Stop Draft :=
  match o, d.config, d.output with
  | .config, none, _ => if value = "" then .error .misuse else .ok { d with config := some value }
  | .format, _, none =>
    match OutputKind.ofWord? value with
    | some kind => .ok { d with output := some kind }
    | none => .error .misuse
  | _, _, _ => .error .misuse

def setSwitch (d : Draft) (s : Switch) : Except Stop Draft :=
  if d.switches.contains s then .error .misuse else .ok { d with switches := s :: d.switches }

def invocation (d : Draft) : Invocation where
  files := d.files.reverse
  config := d.config
  output := d.output.getD .text
  verbose := d.switches.contains .verbose
  noColor := d.switches.contains .noColor
  listRules := d.switches.contains .listRules

end Draft

/-- A draft, and the option whose value is to come. -/
abbrev Progress := Draft × Option ValueOption

/-- Takes an option by its long name, with what stands behind an equals
sign. -/
def readLong (d : Draft) (name : String) (value : Option String) : Except Stop Progress :=
  match OptionName.ofLong? name, value with
  | some (.valued o), some value => do return (← d.setValue o value, none)
  | some (.valued o), none => .ok (d, some o)
  | some (.switch s), none => do return (← d.setSwitch s, none)
  | some (.stop s), none => .error s
  | _, _ => .error .misuse

/-- Takes letters behind a dash; behind the letter of an option with a value
the rest is its value. -/
def readLetters (d : Draft) : List Char → Except Stop Progress
  | [] => .ok (d, none)
  | c :: letters =>
    match OptionName.ofLetter? c with
    | some (.valued o) =>
      match letters with
      | [] => .ok (d, some o)
      | '=' :: value => do return (← d.setValue o (String.ofList value), none)
      | value => do return (← d.setValue o (String.ofList value), none)
    | some (.switch s) => do readLetters (← d.setSwitch s) letters
    | some (.stop s) => .error s
    | none => .error .misuse

/-- Takes an argument that is an option; a single dash is none. -/
def readOption? (d : Draft) (arg : String) : Option (Except Stop Progress) :=
  match arg.toList with
  | '-' :: '-' :: text =>
    match text.span (· ≠ '=') with
    | (name, []) => some (readLong d (String.ofList name) none)
    | (name, _ :: value) => some (readLong d (String.ofList name) (some (String.ofList value)))
  | '-' :: c :: letters => some (readLetters d (c :: letters))
  | _ => none

/-- Takes arguments in order. An option that still lacks its value takes no
option for it. -/
def readArguments : Progress → List String → Except Stop Draft
  | (d, none), [] => .ok d
  | (_, some _), [] => .error .misuse
  | (d, none), arg :: args =>
    if arg = "--" then .ok (args.foldl Draft.addFile d)
    else match readOption? d arg with
      | some (.ok progress) => readArguments progress args
      | some (.error stop) => .error stop
      | none => readArguments (d.addFile arg, none) args
  | (d, some o), arg :: args =>
    match readOption? d arg with
    | some _ => .error .misuse
    | none =>
      match d.setValue o arg with
      | .ok d => readArguments (d, none) args
      | .error stop => .error stop

/-- What arguments ask for. -/
def Invocation.parse (args : List String) : Except Stop Invocation :=
  (readArguments (.empty, none) args).map Draft.invocation

end VectorLint.Command
