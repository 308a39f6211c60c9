/-
Paths: names between slashes. A path that begins with a slash is absolute.
-/
import VectorLint.Text.Split

namespace VectorLint.Path

def isAbsolute (path : String) : Bool :=
  path.toList.head? = some '/'

/-- The parts between the slashes. An empty part and a part `.` stand for no
step. -/
def parts (path : String) : List String :=
  (Text.splitWhere (· = '/') path.toList).map String.ofList

/-- The parts that are steps. -/
def steps (path : String) : List String :=
  (parts path).filter fun part => part ≠ "" && part ≠ "."

/-- The name of the file: the last step, unless it goes up. -/
def fileName? (path : String) : Option String :=
  match (steps path).getLast? with
  | some ".." => none
  | name => name

/-- What follows the last dot of the file name; a dot at the start of the
name begins no extension. -/
def fileExtension? (path : String) : Option String :=
  match fileName? path with
  | none => none
  | some name =>
    match Text.splitWhere (· = '.') name.toList with
    | [_] | [[], _] => none
    | pieces => pieces.getLast?.map String.ofList

/-- The directory of a file: what stands before the last slash. -/
def directory (path : String) : String :=
  let reversed := path.toList.reverse
  match reversed.dropWhile (· ≠ '/') with
  | [] => ""
  | ['/'] => "/"
  | _ :: rest => String.ofList rest.reverse

/-- A path seen from a directory; an absolute path stays as it is. -/
def join (directory path : String) : String :=
  if isAbsolute path || directory = "" then path
  else if directory.toList.getLast? = some '/' then directory ++ path
  else directory ++ "/" ++ path

end VectorLint.Path
