/-
The rules that are always there.
-/
import VectorLint.Pattern.Reader
import VectorLint.Rule.Attributes
import VectorLint.Rule.Elements

namespace VectorLint

/-- The rule `custom` is the rule given as its options. -/
def customFactory : Factory
  | .check rule => .ok rule
  | .data v => refuse "custom" ("expected a check function, got " ++ v.compact)

/-- The built-in rules, with an engine for the patterns of `attr`. -/
def Registry.builtinWith (engine : PatternEngine) : Registry :=
  ((Registry.empty.register Attributes.ruleName (Attributes.factory engine)).register
    Elements.ruleName Elements.factory).register "custom" customFactory

/-- The engine at hand. It says that a text is malformed, and not where; and
it sets no limit on the size of a pattern. -/
def Pattern.engine : PatternEngine := fun source =>
  match Pattern.parse? source with
  | some p => .ok p.isMatch
  | none => .error "regex parse error:"

def Registry.builtin : Registry :=
  .builtinWith Pattern.engine

end VectorLint
