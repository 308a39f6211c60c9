/-
Configurations in JSON: an object with the parts by name, or an array with
the parts in order. The first fault met counts, be it one of JSON or one of
shape.
-/
import VectorLint.Config.Basic

namespace VectorLint.Config

open Json

/-- Refuses a value of the wrong shape; a scalar is read before it is
refused. -/
def refuseValue {α : Type} (s : List Char) : Except Fault α :=
  match skipSpace s with
  | '[' :: _ | '\x7b' :: _ => .error .misfit
  | s => do
    let _ ← readValue 1 0 s
    throw .misfit

def readText (s : List Char) : Except Fault (String × List Char) :=
  match skipSpace s with
  | '"' :: s => readString s
  | s => refuseValue s

def readTextItems : (fuel : Nat) → Turn → Except Fault (List String × List Char)
  | 0, _ => .error .ended
  | _ + 1, .close s => .ok ([], s)
  | fuel + 1, .item s => do
    let (text, s) ← readText s
    let (texts, s) ← readTextItems fuel (← nextItem s)
    return (text :: texts, s)

/-- Reads an array of strings. -/
def readTexts (s : List Char) : Except Fault (List String × List Char) :=
  match skipSpace s with
  | '[' :: s => do readTextItems (s.length + 1) (← firstItem s)
  | s => refuseValue s

/-- How deep the setting of a rule may nest. -/
def settingLevels : Nat := maxLevels - 2

def readRuleMembers : (fuel : Nat) → RuleSettings → Turn →
    Except Fault (RuleSettings × List Char)
  | 0, _, _ => .error .ended
  | _ + 1, rules, .close s => .ok (rules, s)
  | fuel + 1, rules, .item s => do
    let (name, s) ← readString s
    let s ← readColon s
    let (v, s) ← readValue (readFuel s) settingLevels s
    readRuleMembers fuel (rules.set name (.ofValue v)) (← nextMember s)

/-- Reads the settings of rules. -/
def readRules (s : List Char) : Except Fault (RuleSettings × List Char) :=
  match skipSpace s with
  | '\x7b' :: s => do readRuleMembers (s.length + 1) .empty (← firstMember s)
  | s => refuseValue s

/-- Reads a part into a draft. -/
def readPart (d : Draft) (part : Part) (s : List Char) : Except Fault (Draft × List Char) :=
  match part with
  | .bases => do
    let (texts, s) ← readTexts s
    return ({ d with bases := some texts }, s)
  | .rules => do
    let (rules, s) ← readRules s
    return ({ d with rules := some rules }, s)
  | .ignore => do
    let (texts, s) ← readTexts s
    return ({ d with ignore := some texts }, s)

/-- Reads the members of a configuration. Members of other names are skipped;
a part that comes again is refused before its value is read. -/
def readParts : (fuel : Nat) → Draft → Turn → Except Fault (Draft × List Char)
  | 0, _, _ => .error .ended
  | _ + 1, d, .close s => .ok (d, s)
  | fuel + 1, d, .item s => do
    let (key, s) ← readString s
    match Part.ofKey? key with
    | some part =>
      if d.has part then throw .misfit
      let (d, s) ← readPart d part (← readColon s)
      readParts fuel d (← nextMember s)
    | none =>
      let s ← readColon s
      let s ← skipValue (readFuel s) s
      readParts fuel d (← nextMember s)

/-- Reads the items of a configuration that is an array. -/
def readPartItems (d : Draft) : List Part → Turn → Except Fault (Draft × List Char)
  | _, .close s => .ok (d, s)
  | [], .item _ => .error .malformed
  | part :: parts, .item s => do
    let (d, s) ← readPart d part s
    match parts, skipSpace s with
    | [], ',' :: _ => throw .malformed
    | _, _ => readPartItems d parts (← nextItem s)

/-- Reads a configuration. -/
def ofJson (s : List Char) : Except Fault Config := do
  let (d, s) ← match skipSpace s with
    | '\x7b' :: s => do readParts (s.length + 1) .empty (← firstMember s)
    | '[' :: s => do readPartItems .empty [.bases, .rules, .ignore] (← firstItem s)
    | s => refuseValue s
  readEnd s
  return d.config

end VectorLint.Config
