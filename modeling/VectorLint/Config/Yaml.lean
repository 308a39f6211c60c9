/-
Configurations in YAML: a mapping with the parts by name.
-/
import VectorLint.Config.Basic
import VectorLint.Yaml.Reader

namespace VectorLint.Config

open Yaml

/-- Reads the setting of a rule. -/
def ruleMember (name : String) (rules : RuleSettings) : Reads RuleSettings := fun t => do
  let (v, t) ← Tape.value (maxLevels - 2) t
  return (rules.set name (.ofValue v), t)

/-- Reads a part; others are skipped, and none may come again. -/
def partMember (key : String) (d : Draft) : Reads Draft := fun t =>
  match Part.ofKey? key with
  | none => do
    let (_, t) ← Tape.skip t
    return (d, t)
  | some part =>
    if d.has part then none
    else match part with
      | .bases => do
        let (texts, t) ← Tape.texts t
        return ({ d with bases := some texts }, t)
      | .rules => do
        let (rules, t) ← Tape.mapping ruleMember .empty t
        return ({ d with rules := some rules }, t)
      | .ignore => do
        let (texts, t) ← Tape.texts t
        return ({ d with ignore := some texts }, t)

/-- Reads a configuration; a text without a document is an empty one. -/
def ofYaml? (s : List Char) : Option Config := do
  let events ← Event.ofTokens? (← tokens? s)
  if events.isEmpty then return .empty
  let (d, _) ← Tape.mapping partMember .empty (← Tape.ofEvents events)
  return d.config

end VectorLint.Config
