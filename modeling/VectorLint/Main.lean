/-
The command line on the disk. What the arguments and the configurations name
is read into a file system value, and the command is carried out on that. For
an argument that names nothing itself, the directories that it may match in
are listed, and of the files there those that it matches are read.
-/
import VectorLint.Command.Run

namespace VectorLint

/-- The steps from the root to a path, seen from the working directory. -/
def stepsFromRoot (workingDirectory path : String) : List String :=
  let step (trail : List String) (part : String) : List String :=
    if part = ".." then trail.drop 1 else part :: trail
  ((Path.steps (Path.join workingDirectory path)).foldl step []).reverse

/-- Reads a path into a file system; one that is there but is no file is a
directory. -/
def readInto (fs : FileSystem) (path : String) : IO FileSystem := do
  let place := stepsFromRoot fs.workingDirectory path
  try
    let bytes ← IO.FS.readBinFile path
    return { fs with root := fs.root.insert place (.file bytes) }
  catch
    | .noFileOrDirectory .. => return fs
    | _ => return { fs with root := fs.root.insert place (.directory []) }

/-- Reads a configuration into a file system, and those that it extends. -/
def readConfigInto : (depth : Nat) → FileSystem → (path : String) → IO FileSystem
  | 0, fs, _ => return fs
  | depth + 1, fs, path => do
    let fs ← readInto fs path
    match fs.readText path with
    | .error _ => return fs
    | .ok text =>
      match Config.parse path text with
      | .error _ => return fs
      | .ok c =>
        c.bases.foldlM (fun fs base =>
          readConfigInto depth fs (Path.join (Path.directory path) base)) fs

/-- How deep directories are listed for a pattern with a step that stands for
any number of steps. -/
def listedLevels : Nat := 64

/-- The directory in which the steps of a pattern begin that are no plain names,
how many levels of it they go down, and whether that is without limit. -/
def listingFor (pattern : String) : String × Nat × Bool :=
  let isAbsolute := Path.isAbsolute pattern
  let steps := Glob.stepTexts (if isAbsolute then String.ofList (pattern.toList.drop 1) else pattern)
  let parsed (text : String) : Glob.Pattern := (Glob.Pattern.parse text).toOption.getD []
  let open? (text : String) : Bool := (parsed text).literal?.isNone
  let fixed := steps.takeWhile (!open? ·)
  let matched := steps.drop fixed.length
  let unlimited := matched.any fun text => (parsed text).isRecursive
  (fixed.foldl Path.join (if isAbsolute then "/" else "."),
    if unlimited then listedLevels else matched.length, unlimited)

/-- Lists a directory into a file system, so many levels down, its files empty
for now. Links lead into further directories only where `links` says so. -/
def listInto (links : Bool) : (levels : Nat) → FileSystem → (path : String) → IO FileSystem
  | 0, fs, _ => return fs
  | levels + 1, fs, path => do
    let entries ← try (← IO.FS.realPath path).readDir catch _ => return fs
    entries.foldlM (fun fs entry => do
      let path := Path.join path entry.fileName
      let place := stepsFromRoot fs.workingDirectory path
      let isDirectory ←
        try
          let metadata ← if links then entry.path.metadata else entry.path.symlinkMetadata
          pure (metadata.type == .dir)
        catch _ => pure false
      if isDirectory then
        listInto links levels { fs with root := fs.root.insert place (.directory []) } path
      else return { fs with root := fs.root.insert place (.file .empty) }) fs

/-- Reads what an argument names: the file of that name, or else the files that
match it as a pattern. -/
def readNamedInto (fs : FileSystem) (argument : String) : IO FileSystem := do
  let fs ← readInto fs argument
  if fs.pathExists argument then return fs
  let (directory, levels, unlimited) := listingFor argument
  let fs ← listInto (!unlimited) levels fs directory
  match Glob.search fs argument with
  | .error _ => return fs
  | .ok paths => paths.foldlM readInto fs

/-- Reads all that a command line may look at. -/
def readFiles (args : List String) : IO FileSystem := do
  let directory := (← IO.getEnv "PWD").getD "/"
  let home := (← IO.getEnv "HOME").getD "/"
  let start : FileSystem :=
    { root := (FileTree.directory []).insert (stepsFromRoot "/" directory) (.directory [])
      workingDirectory := directory
      home := home }
  match Command.Invocation.parse args with
  | .error _ => return start
  | .ok i =>
    let configs := match i.config with
      | some path => [path]
      | none => Config.defaultPaths home
    let fs ← configs.foldlM (readConfigInto Config.maxDepth) start
    i.files.foldlM readNamedInto fs

end VectorLint

open VectorLint in
def main (args : List String) : IO UInt32 := do
  let fs ← readFiles args
  let outcome := Command.run fs (← (← IO.getStdout).isTty) args
  IO.print outcome.output
  IO.eprint outcome.errors
  return outcome.exitCode.toUInt32
