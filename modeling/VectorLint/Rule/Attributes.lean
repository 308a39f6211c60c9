/-
The rule `attr`: what holds of the attributes of selected elements. Members
that begin with `rule::` configure the rule; any other member is an
attribute and what is expected of it.

Patterns are for an engine to compile. The rule takes any.
-/
import VectorLint.Rule.Options

namespace VectorLint

/-- An engine for patterns: it compiles a text to a test whether a match lies
anywhere in a value, or says what is wrong with the text. -/
abbrev PatternEngine := String → Except String (String → Bool)

end VectorLint

namespace VectorLint.Attributes

variable (engine : PatternEngine)

def ruleName : String := "attr"

inductive Expectation
  | present
  | absent
  | equals (value : String)
  /-- A pattern, with its text. -/
  | matching (source : String) (accepts : String → Bool)
  | oneOf (values : List String)

/-- The text between the slashes of a value that is written as a pattern. -/
def patternText? (s : String) : Option String :=
  match s.toList with
  | '/' :: rest =>
    if rest.getLast? = some '/' then some (String.ofList rest.dropLast) else none
  | _ => none

/-- The expectation that a value stands for. -/
def readExpectation (name : String) (v : Json.Value) : Except Refusal Expectation :=
  let unsupported {α : Type} : Except Refusal α :=
    refuse ruleName ("unsupported value " ++ v.compact ++ " for attribute '" ++ name ++ "'")
  match v with
  | .bool true => .ok .present
  | .bool false => .ok .absent
  | .number n => .ok (.equals (String.ofList n.chars))
  | .string s =>
    match patternText? s with
    | none => .ok (.equals s)
    | some source =>
      match engine source with
      | .ok accepts => .ok (.matching source accepts)
      | .error reason =>
        refuse ruleName ("invalid pattern for attribute '" ++ name ++ "': " ++ reason)
  | .array items =>
    match items.mapM Json.Value.asString? with
    | some values => .ok (.oneOf values)
    | none => unsupported
  | _ => unsupported

/-- What is wrong with the value of an attribute, if anything. -/
def Expectation.violation (e : Expectation) (name : String) (value : Option String) :
    Option Message :=
  match e, value with
  | .absent, some _ => some (.ofText ("Attribute '" ++ name ++ "' is disallowed"))
  | .absent, none => none
  | _, none => some (.ofText ("Expected attribute '" ++ name ++ "', didn't find it"))
  | .present, some _ => none
  | .equals expected, some actual =>
    if expected = actual then none
    else some ⟨[.string ("Expected attribute '" ++ name ++ "' to be"), .string expected,
      .string "but found", .string actual]⟩
  | .matching source accepts, some actual =>
    if accepts actual then none
    else some ⟨[.string ("Expected attribute '" ++ name ++ "' to match /" ++ source ++
      "/, found"), .string actual]⟩
  | .oneOf values, some actual =>
    if values.contains actual then none
    else some ⟨[.string ("Expected attribute '" ++ name ++ "' to be one of"),
      .array (values.map .string), .string "but found", .string actual]⟩

/-- The rule as configured; `order` lists the names whose order counts. -/
structure Config where
  selector : Selector
  attributes : List (String × Expectation)
  whitelist : Bool
  order : Option (List String)

/-- What the members read so far say. -/
structure Draft where
  selector : Option Selector
  whitelist : Bool
  order : Option Json.Value
  attributes : List (String × Expectation)

def Draft.empty : Draft := ⟨none, false, none, []⟩

/-- Takes in a member of the options. -/
def Draft.read (draft : Draft) (member : String × Json.Value) : Except Refusal Draft :=
  let (key, v) := member
  match key with
  | "rule::selector" =>
    match v with
    | .string text => (readSelector ruleName text).map fun s => { draft with selector := some s }
    | _ => refuse ruleName "rule::selector must be a string"
  | "rule::whitelist" =>
    match v with
    | .bool b => .ok { draft with whitelist := b }
    | _ => refuse ruleName "rule::whitelist must be a boolean"
  | "rule::order" => .ok { draft with order := some v }
  | key =>
    if "rule::".toList.isPrefixOf key.toList then
      refuse ruleName ("unknown option '" ++ key ++ "'")
    else
      (readExpectation engine key v).map fun e =>
        { draft with attributes := draft.attributes ++ [(key, e)] }

/-- The names whose order counts: those listed, or those of the attributes in
the order of the options. -/
def Draft.readOrder (draft : Draft) : Except Refusal (Option (List String)) :=
  match draft.order with
  | none | some (.bool false) => .ok none
  | some (.bool true) => .ok (some (draft.attributes.map Prod.fst))
  | some (.array names) =>
    match names.mapM Json.Value.asString? with
    | some names => .ok (some names)
    | none => refuse ruleName "rule::order must list names"
  | some _ => refuse ruleName "rule::order must be a boolean or an array"

/-- Without a selector every element is checked. -/
def readConfig (members : List (String × Json.Value)) : Except Refusal Config := do
  let draft ← members.foldlM (Draft.read engine) .empty
  let order ← draft.readOrder
  let selector ← match draft.selector with
    | some selector => pure selector
    | none => readSelector ruleName "*"
  return ⟨selector, draft.attributes, draft.whitelist, order⟩

/-- What is wrong with the order of the attributes of an element, if
anything. -/
def orderViolation (order : List String) (n : Node) : Option Message :=
  let found := (n.attributes.map Prod.fst).filter order.contains
  let expected := order.filter found.contains
  if found = expected then none
  else some ⟨[.string "Wrong ordering of attributes, found", .array (found.map .string),
    .string "expected", .array (expected.map .string)]⟩

/-- What is wrong with an element. -/
def Config.violations (c : Config) (n : Node) : List Message :=
  let mismatches := c.attributes.filterMap fun (name, e) => e.violation name (n.attribute? name)
  let unlisted :=
    if c.whitelist then
      ((n.attributes.map Prod.fst).filter fun name => !(c.attributes.map Prod.fst).contains name).map
        fun name => .ofText ("Attribute '" ++ name ++ "' not allowed")
    else []
  mismatches ++ unlisted ++ (c.order.bind (orderViolation · n)).toList

/-- The errors element by element, in source order. -/
def errors (c : Config) (d : Document) : List (Message × Option NodeRef) :=
  (d.select c.selector).flatMap fun id =>
    match d.get? id with
    | some n => (c.violations n).map (·, d.ref? id)
    | none => []

def factory : Factory := fun options => do
  let members ← options.members ruleName
  let config ← readConfig engine members
  return .ofErrors (errors config)

end VectorLint.Attributes
