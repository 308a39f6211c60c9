/-
Files and directories as a value, and what reading a path gives.
-/
import VectorLint.Entries
import VectorLint.Files.Path
import VectorLint.Text.Bytes

namespace VectorLint

/-- A file, or a directory with its entries in the order of their names. -/
inductive FileTree
  | file (bytes : ByteArray)
  | directory (entries : List (String × FileTree))

/-- Why a path cannot be read. -/
inductive IoError
  | notFound
  | notDirectory
  | isDirectory
  | nameTooLong
  | nulInName
  | notText
deriving DecidableEq, Repr

def IoError.message : IoError → String
  | .notFound => "No such file or directory (os error 2)"
  | .notDirectory => "Not a directory (os error 20)"
  | .isDirectory => "Is a directory (os error 21)"
  | .nameTooLong => "File name too long (os error 36)"
  | .nulInName => "file name contained an unexpected NUL byte"
  | .notText => "stream did not contain valid UTF-8"

namespace FileTree

/-- The tree with `leaf` at the given place; directories on the way are made. -/
def insert (tree : FileTree) : (place : List String) → (leaf : FileTree) → FileTree
  | [], leaf =>
    match tree, leaf with
    | .directory _, .directory _ => tree
    | _, _ => leaf
  | name :: place, leaf =>
    let entries := match tree with
      | .directory entries => entries
      | .file _ => []
    let below := insert ((entries.lookup name).getD (.directory [])) place leaf
    .directory (Entries.insert name below entries)

mutual

/-- How deep directories nest. -/
def height : FileTree → Nat
  | .file _ => 0
  | .directory entries => heightAbove entries + 1

def heightAbove : List (String × FileTree) → Nat
  | [] => 0
  | (_, tree) :: entries => max tree.height (heightAbove entries)

end

/-- The trees on the way to a place, the last one first, seen from the trees
`trail` on the way to where it starts. -/
def walk (trail : List FileTree) : (parts : List String) → Except IoError (List FileTree)
  | [] => .ok trail
  | part :: parts =>
    match trail with
    | .directory entries :: outer =>
      if part = "" ∨ part = "." then walk trail parts
      else if part = ".." then walk (if outer.isEmpty then trail else outer) parts
      else if part.utf8ByteSize > 255 then .error .nameTooLong
      else
        match entries.lookup part with
        | some tree => walk (tree :: trail) parts
        | none => .error .notFound
    | _ => .error .notDirectory

end FileTree

/-- All files, the directory that paths start from, and the home directory. -/
structure FileSystem where
  root : FileTree
  workingDirectory : String
  home : String

namespace FileSystem

/-- The trees on the way to a path. -/
def trail (fs : FileSystem) (path : String) : Except IoError (List FileTree) :=
  if path = "" then .error .notFound
  else if path.toList.contains '\x00' then .error .nulInName
  else if path.utf8ByteSize ≥ 4096 then .error .nameTooLong
  else if Path.isAbsolute path then FileTree.walk [fs.root] (Path.parts path)
  else do FileTree.walk (← FileTree.walk [fs.root] (Path.parts fs.workingDirectory)) (Path.parts path)

def find (fs : FileSystem) (path : String) : Except IoError FileTree := do
  match ← fs.trail path with
  | tree :: _ => return tree
  | [] => throw .notFound

def pathExists (fs : FileSystem) (path : String) : Bool :=
  (fs.find path).isOk

def isFile (fs : FileSystem) (path : String) : Bool :=
  match fs.find path with
  | .ok (.file _) => true
  | _ => false

def isDirectory (fs : FileSystem) (path : String) : Bool :=
  match fs.find path with
  | .ok (.directory _) => true
  | _ => false

/-- The names in a directory, in order. -/
def names (fs : FileSystem) (path : String) : List String :=
  match fs.find path with
  | .ok (.directory entries) => entries.map Prod.fst
  | _ => []

/-- The text of a file. -/
def readText (fs : FileSystem) (path : String) : Except IoError (List Char) := do
  match ← fs.find path with
  | .directory _ => throw .isDirectory
  | .file bytes =>
    match Text.ofBytes? bytes with
    | some text => return text
    | none => throw .notText

end FileSystem

end VectorLint
