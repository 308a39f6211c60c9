/-
Loading configurations from files. The configurations that one extends are
loaded first, from paths seen from its own directory, and it goes over them.
-/
import VectorLint.Config.Json
import VectorLint.Config.Yaml
import VectorLint.Files.Path

namespace VectorLint.Config

/-- A decoder for each format of configuration files. -/
structure Decoders where
  yaml? : List Char → Option Config
  json : List Char → Except Json.Fault Config

/-- The configuration that a text holds; the path says in which format. -/
def Decoders.parse (decoders : Decoders) (path : String) (text : List Char) :
    Except ConfigError Config :=
  match Path.fileExtension? path with
  | some "yaml" | some "yml" =>
    match decoders.yaml? text with
    | some c => .ok c
    | none => .error .yaml
  | some "json" => (decoders.json text).mapError .json
  | e => .error (.unknownFormat (e.getD ""))

/-- How many configurations may extend each other. -/
def maxDepth : Nat := 10

/-- Loads a configuration with at most so many that extend each other. -/
def loadWithin (decoders : Decoders) (read : String → Except IoError (List Char)) :
    (depth : Nat) → (path : String) → Except ConfigError Config
  | 0, _ => .error .tooDeep
  | depth + 1, path => do
    let text ← (read path).mapError .io
    let own ← decoders.parse path text
    let bases ← own.bases.mapM fun base =>
      loadWithin decoders read depth (Path.join (Path.directory path) base)
    return (bases.foldl merge empty).merge own

def Decoders.load (decoders : Decoders) (read : String → Except IoError (List Char))
    (path : String) : Except ConfigError Config :=
  loadWithin decoders read maxDepth path

/-! ## The formats there are -/

def Decoders.builtin : Decoders := ⟨ofYaml?, ofJson⟩

def parse (path : String) (text : List Char) : Except ConfigError Config :=
  Decoders.builtin.parse path text

def load (read : String → Except IoError (List Char)) (path : String) :
    Except ConfigError Config :=
  Decoders.builtin.load read path

/-- The names that a configuration has by default, the first one first. -/
def defaultNames : List String :=
  [".svglintrc.yaml", ".svglintrc.yml", ".svglintrc.json"]

/-- Where a configuration lies by default. -/
def defaultPaths (home : String) : List String :=
  defaultNames ++ defaultNames.map (Path.join home)

/-- Loads the first default configuration that there is, or else an empty
one. -/
def loadDefault (fs : FileSystem) : Except ConfigError Config :=
  match (defaultPaths fs.home).find? fs.pathExists with
  | some path => load fs.readText path
  | none => .ok empty

end VectorLint.Config
