/-
Reading values off the events of a YAML document. Aliases are followed where
they are met, within limits: what is read may nest only so deep, and only so
many aliases are followed.
-/
import VectorLint.Entries
import VectorLint.Yaml.Event
import VectorLint.Yaml.Schema

namespace VectorLint.Yaml

/-! ## Anchors -/

/-- Anchors with the numbers that they have at some place. -/
abbrev Anchors := List (String × Nat)

namespace Anchors

/-- The anchors with one more. Its number is how many names there are before
it, so a name that is used again may share its number with a later one. -/
def add (anchors : Anchors) (name : String) : Anchors :=
  (name, anchors.length) :: anchors.filter (·.1 ≠ name)

end Anchors

/-- The events with numbers for the names of anchors; an alias has to name an
anchor before it. -/
def numberAnchors (anchors : Anchors) : List (Event String) → Option (List (Event Nat))
  | [] => some []
  | event :: events =>
    let numbered (p : Properties String) (f : Properties Nat → Event Nat) := do
      let anchors := match p.anchor with
        | none => anchors
        | some name => anchors.add name
      let p : Properties Nat := ⟨p.anchor.bind fun name => anchors.lookup name, p.tag⟩
      return f p :: (← numberAnchors anchors events)
    match event with
    | .alias name => do
      let n ← anchors.lookup name
      return .alias n :: (← numberAnchors anchors events)
    | .scalar p plain text => numbered p fun p => .scalar p plain text
    | .sequenceStart p => numbered p .sequenceStart
    | .mappingStart p => numbered p .mappingStart
    | .sequenceEnd => do return .sequenceEnd :: (← numberAnchors anchors events)
    | .mappingEnd => do return .mappingEnd :: (← numberAnchors anchors events)

def Event.anchor? : Event Nat → Option Nat
  | .scalar p _ _ | .sequenceStart p | .mappingStart p => p.anchor
  | _ => none

/-- The events from the last anchor of a number on. -/
def target? (n : Nat) : List (Event Nat) → Option (List (Event Nat))
  | [] => none
  | event :: events =>
    match target? n events with
    | some later => some later
    | none => if event.anchor? = some n then some (event :: events) else none

/-! ## Values -/

structure Tape where
  document : List (Event Nat)
  /-- What is left to read. -/
  rest : List (Event Nat)
  /-- How many aliases may still be followed. -/
  follows : Nat

/-- A reader takes something off the tape. -/
abbrev Reads (α : Type) := Tape → Option (α × Tape)

/-- How deep collections may nest. -/
def maxLevels : Nat := 128

namespace Tape

/-- The tape of a document, at its start. -/
def ofEvents (events : List (Event String)) : Option Tape := do
  let document ← numberAnchors [] events
  return ⟨document, document, 100 * document.length⟩

/-- Reads a node; an alias stands for the node that it names. -/
def node {α : Type} (read : Reads α) : Reads α := fun t =>
  match t.rest with
  | .alias n :: rest =>
    if t.follows = 0 then none
    else do
      let (a, after) ← read { t with rest := ← target? n t.document, follows := t.follows - 1 }
      return (a, { after with rest := rest })
  | _ => read t

/-- Reads the text of a scalar, whatever its tag. -/
def text : Reads String :=
  node fun t =>
    match t.rest with
    | .scalar _ _ text :: rest => some (text, { t with rest := rest })
    | _ => none

/-- Reads items up to the end of a sequence. -/
def items {α : Type} (read : Reads α) : (fuel : Nat) → Reads (List α)
  | 0, _ => none
  | fuel + 1, t =>
    match t.rest with
    | .sequenceEnd :: rest => some ([], { t with rest := rest })
    | _ => do
      let (a, t) ← read t
      let (as, t) ← items read fuel t
      return (a :: as, t)

/-- Reads members up to the end of a mapping, each into what was read
before. -/
def members {α : Type} (read : String → α → Reads α) : (fuel : Nat) → α → Reads α
  | 0, _, _ => none
  | fuel + 1, a, t =>
    match t.rest with
    | .mappingEnd :: rest => some (a, { t with rest := rest })
    | _ => do
      let (key, t) ← text t
      let (a, t) ← read key a t
      members read fuel a t

/-- Whether a node with this tag has a value. -/
def hasValue (p : Properties Nat) : Bool :=
  !p.tag.any namesVariant

/-- Reads a member of an object into those read before. A key that comes
again keeps its first place and takes its last value. -/
def member (inner : Reads Json.Value) (key : String) (members : List (String × Json.Value)) :
    Reads (List (String × Json.Value)) := fun t => do
  let (v, t) ← inner t
  return (Entries.set key v members, t)

/-- Reads a value whose items are read by `inner`, if they may be there. -/
def valueOf (inner : Option (Reads Json.Value)) : Reads Json.Value := fun t =>
  match t.rest with
  | .scalar p plain text :: rest => do
    return (← scalarValue p.tag plain text, { t with rest := rest })
  | .sequenceStart p :: rest =>
    if hasValue p then do
      let (vs, t) ← items (← inner) (t.rest.length + 1) { t with rest := rest }
      return (.array vs, t)
    else none
  | .mappingStart p :: rest =>
    if hasValue p then do
      let (ms, t) ← members (member (← inner)) (t.rest.length + 1) [] { t with rest := rest }
      return (.object ms, t)
    else none
  | _ => none

/-- Reads a value that nests at most so deep. -/
def value : (levels : Nat) → Reads Json.Value
  | 0 => node (valueOf none)
  | levels + 1 => node (valueOf (some (value levels)))

/-- Reads the texts of a sequence; a node written as nothing has none. -/
def texts : Reads (List String) :=
  node fun t =>
    match t.rest with
    | .sequenceStart _ :: rest => items text (t.rest.length + 1) { t with rest := rest }
    | .scalar _ true "" :: rest => some ([], { t with rest := rest })
    | _ => none

/-- Reads the members of a mapping into `a`; a node written as nothing has
none. -/
def mapping {α : Type} (read : String → α → Reads α) (a : α) : Reads α :=
  node fun t =>
    match t.rest with
    | .mappingStart _ :: rest => members read (t.rest.length + 1) a { t with rest := rest }
    | .scalar _ true "" :: rest => some (a, { t with rest := rest })
    | _ => none

/-- Goes over a node; `opened` collections are to be closed before it
ends. -/
def skipEvents : (opened : Nat) → List (Event Nat) → Option (List (Event Nat))
  | _, [] => none
  | opened, event :: rest =>
    match event, opened with
    | .sequenceStart _, n | .mappingStart _, n => skipEvents (n + 1) rest
    | .sequenceEnd, n + 2 | .mappingEnd, n + 2 => skipEvents (n + 1) rest
    | .sequenceEnd, _ | .mappingEnd, _ => some rest
    | _, 0 => some rest
    | _, n => skipEvents n rest

/-- Goes over a node without following aliases. -/
def skip : Reads Unit := fun t => do
  return ((), { t with rest := ← skipEvents 0 t.rest })

end Tape

end VectorLint.Yaml
