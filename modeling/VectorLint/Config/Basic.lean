/-
Configurations: which rules apply, which files are skipped, and which other
configurations come first.
-/
import VectorLint.Files.Tree
import VectorLint.Json.Reader
import VectorLint.Rule.Settings

namespace VectorLint

structure Config where
  /-- The paths of the configurations that this one extends. -/
  bases : List String
  rules : RuleSettings
  /-- Patterns of the files that are not linted. -/
  ignore : List String

/-- Why there is no configuration. -/
inductive ConfigError
  | io (e : IoError)
  | yaml
  | json (fault : Json.Fault)
  | tooDeep
  | unknownFormat (fileExtension : String)
deriving DecidableEq, Repr

def ConfigError.message : ConfigError → String
  | .io e => "IO error: " ++ e.message
  | .yaml => "YAML parse error: not a configuration"
  | .json _ => "JSON parse error: not a configuration"
  | .tooDeep => "Invalid configuration: Maximum config inheritance depth exceeded"
  | .unknownFormat e => "Invalid configuration: Unknown config file format: " ++ e

namespace Config

def empty : Config := ⟨[], .empty, []⟩

/-- The configuration with another one over it. -/
def merge (c other : Config) : Config :=
  { c with rules := c.rules.merge other.rules, ignore := c.ignore ++ other.ignore }

/-- A configuration as far as it is read: each part may be given once. -/
structure Draft where
  bases : Option (List String)
  rules : Option RuleSettings
  ignore : Option (List String)

/-- The parts that have a name in a file. -/
inductive Part
  | bases
  | rules
  | ignore
deriving DecidableEq, Repr

def Part.ofKey? : String → Option Part
  | "extends" => some .bases
  | "rules" => some .rules
  | "ignore" => some .ignore
  | _ => none

namespace Draft

def empty : Draft := ⟨none, none, none⟩

def has (d : Draft) : Part → Bool
  | .bases => d.bases.isSome
  | .rules => d.rules.isSome
  | .ignore => d.ignore.isSome

/-- The configuration of a draft; what is not given is empty. -/
def config (d : Draft) : Config :=
  ⟨d.bases.getD [], d.rules.getD .empty, d.ignore.getD []⟩

end Draft

end Config

end VectorLint
