/-
Which rules apply: a setting for each rule name, in the order in which the
names came first.
-/
import VectorLint.Entries
import VectorLint.Rule.Process

namespace VectorLint

/-- What configures one rule instance: data, or a rule given directly. -/
inductive Options
  | data (v : Json.Value)
  | check (rule : Rule)

/-- The options for a reader; a rule given directly has no text. -/
def Options.text : Options → String
  | .data v => v.compact
  | .check _ => "<check>"

inductive Setting
  /-- The rule is not applied. -/
  | disabled
  | one (options : Options)
  /-- One instance for each item. -/
  | many (options : List Options)

namespace Setting

/-- The setting that a value stands for: `false` disables, an array gives an
instance for each item, and any other value is one instance. -/
def ofValue : Json.Value → Setting
  | .bool false => .disabled
  | .array items => .many (items.map .data)
  | v => .one (.data v)

def isDisabled : Setting → Bool
  | .disabled => true
  | _ => false

/-- The options of the instances. -/
def options : Setting → List Options
  | .disabled => []
  | .one o => [o]
  | .many os => os

end Setting

/-- One use of a rule. -/
structure RuleInstance where
  name : String
  options : Options

/-- Settings by name; no name comes twice. -/
structure RuleSettings where
  entries : List (String × Setting)
  distinct : (entries.map Prod.fst).Nodup

namespace RuleSettings

def empty : RuleSettings := ⟨[], .nil⟩

/-- Sets an entry: in place if the name is there, else at the end. -/
def set (r : RuleSettings) (name : String) (setting : Setting) : RuleSettings :=
  ⟨Entries.set name setting r.entries, Entries.nodup_set r.distinct name setting⟩

/-- Sets entries one after the other. -/
def setAll (r : RuleSettings) (entries : List (String × Setting)) : RuleSettings :=
  entries.foldl (fun r (name, setting) => r.set name setting) r

def get? (r : RuleSettings) (name : String) : Option Setting :=
  r.entries.lookup name

theorem get?_set (r : RuleSettings) (name other : String) (setting : Setting) :
    (r.set name setting).get? other = if other = name then some setting else r.get? other :=
  Entries.lookup_set name other setting r.entries

def size (r : RuleSettings) : Nat :=
  r.entries.length

/-- The settings with those of `other` set over them. -/
def merge (r other : RuleSettings) : RuleSettings :=
  r.setAll other.entries

/-- Settings given one after the other; a later one replaces an earlier one
of the same name. -/
def ofList (entries : List (String × Setting)) : RuleSettings :=
  empty.setAll entries

/-- The settings that the members of an object stand for. -/
def ofMembers (members : List (String × Json.Value)) : RuleSettings :=
  ofList (members.map fun (name, v) => (name, Setting.ofValue v))

/-- The rule instances: names in order, and within a name its options in
order. -/
def instances (r : RuleSettings) : List RuleInstance :=
  r.entries.flatMap fun (name, setting) => setting.options.map (⟨name, ·⟩)

end RuleSettings

end VectorLint
