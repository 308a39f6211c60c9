/-
Searching a file system for the paths that a pattern matches. The pattern is
taken step by step; directories are gone through in the order of names, and
what a directory matches itself comes before what is in it.
-/
import VectorLint.Files.Tree
import VectorLint.Glob.Pattern

namespace VectorLint.Glob

/-- Whether a path is the working directory, written with dots. -/
def isHere (path : String) : Bool :=
  (Path.parts path).head? = some "." && (Path.parts path).all fun part => part = "" || part = "."

/-- The path of a name seen from a directory; the working directory is left
out. -/
def below (path name : String) : String :=
  if isHere path then name else Path.join path name

/-- The patterns of the steps of a path pattern. A slash at the end makes no
step. -/
def stepTexts (pattern : String) : List String :=
  let steps := Path.parts pattern
  if steps.getLast? = some "" then steps.dropLast else steps

structure Search where
  files : FileSystem
  /-- Whether only directories are wanted. -/
  directoriesOnly : Bool

namespace Search

/-- The path itself, if it is wanted. -/
def found (x : Search) (path : String) : List String :=
  if x.directoriesOnly && !x.files.isDirectory path then [] else [path]

/-- Which of `.` and `..` a pattern stands for; it has to begin with a dot. -/
def dotNames (p : Pattern) : List String :=
  if p.head? = some (.char '.') then ["..", "."].filter p.isMatch else []

mutual

/-- What the steps match in a directory. -/
def inside (x : Search) : (fuel : Nat) → (steps : List Pattern) → (path : String) → List String
  | 0, _, _ => []
  | _, [], _ => []
  | fuel + 1, p :: steps, path =>
    let goOn (path : String) : List String :=
      if steps.isEmpty then x.found path else inside x fuel steps path
    match p.literal? with
    | some name =>
      let next := below path name
      let isThere := if name = "." ∨ name = ".." then x.files.isDirectory path
        else x.files.pathExists next
      if isThere then goOn next else []
    | none =>
      if x.files.isDirectory path then
        (dotNames p).flatMap (fun name => goOn (Path.join path name)) ++
          (x.files.names path).flatMap fun name => entry x fuel (p :: steps) name (below path name)
      else []

/-- What the steps match at an entry of a directory and below it. -/
def entry (x : Search) : (fuel : Nat) → (steps : List Pattern) → (name path : String) → List String
  | 0, _, _, _ => []
  | _, [], _, _ => []
  | fuel + 1, p :: steps, name, path =>
    let atEntry : List Pattern → List String
      | [] => []
      | p :: steps =>
        if p.isMatch name then
          if steps.isEmpty then x.found path else inside x fuel steps path
        else []
    if p.isRecursive then
      let steps := steps.dropWhile Pattern.isRecursive
      let deeper := if x.files.isDirectory path then inside x fuel (p :: steps) path else []
      if steps.isEmpty then (if x.files.isDirectory path then path :: deeper else [])
      else atEntry steps ++ deeper
    else atEntry (p :: steps)

end

end Search

/-- The paths that a pattern matches. -/
def search (files : FileSystem) (pattern : String) : Except Fault (List String) := do
  let _ ← Pattern.parse pattern
  let isAbsolute := Path.isAbsolute pattern
  let relative := if isAbsolute then String.ofList (pattern.toList.drop 1) else pattern
  let texts := stepTexts relative
  let steps ← (if relative = "" then [""] else texts).mapM Pattern.parse
  let x : Search := ⟨files, pattern.toList.getLast? = some '/'⟩
  return x.inside (2 * (steps.length + 1) * (files.root.height + 2)) steps
    (if isAbsolute then "/" else ".")

end VectorLint.Glob
