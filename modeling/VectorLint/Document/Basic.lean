/-
Documents. The nodes of a document stand in an arena, in the order in which
they start in the text; a node refers to its parent and its children by
their index there. A parent comes before its children, so every walk along
parents or children ends.
-/
import VectorLint.Text.Position

namespace VectorLint

abbrev NodeId := Nat

inductive Kind
  | element
  | text
  | comment
deriving DecidableEq, Repr

/-- What a node is: only elements have attributes, only texts and comments a
text. -/
inductive Content
  | element (name : String) (attributes : List (String × String))
  | text (value : String)
  | comment (value : String)
deriving DecidableEq, Repr

/-- A range of bytes of the source. -/
structure Span where
  start : Nat
  stop : Nat
deriving DecidableEq, Repr

structure Node where
  content : Content
  parent : Option NodeId
  children : Array NodeId
  span : Span
  position : Text.Position
deriving DecidableEq, Repr

namespace Node

def kind (n : Node) : Kind :=
  match n.content with
  | .element .. => .element
  | .text _ => .text
  | .comment _ => .comment

def isElement (n : Node) : Bool :=
  match n.content with
  | .element .. => true
  | _ => false

/-- The tag name of an element; other nodes are named by their kind. -/
def name (n : Node) : String :=
  match n.content with
  | .element name _ => name
  | .text _ => "#text"
  | .comment _ => "#comment"

/-- The attributes in source order; none but those of an element. -/
def attributes (n : Node) : List (String × String) :=
  match n.content with
  | .element _ attributes => attributes
  | _ => []

def attribute? (n : Node) (name : String) : Option String :=
  n.attributes.lookup name

def hasAttribute (n : Node) (name : String) : Bool :=
  (n.attribute? name).isSome

/-- The text of a text or a comment. -/
def text? (n : Node) : Option String :=
  match n.content with
  | .element .. => none
  | .text value | .comment value => some value

/-- The name of a node and where it starts, for a reader. -/
def describe (n : Node) : String :=
  "<" ++ n.name ++ "> at " ++ n.position.line.repr ++ ":" ++ n.position.column.repr

end Node

/-- Nodes whose links are sound: parents come before, children after, and
both are in the arena. -/
structure Arena where
  nodes : Array Node
  parent_lt : ∀ i, (h : i < nodes.size) → ∀ p, nodes[i].parent = some p → p < i
  child_lt : ∀ i, (h : i < nodes.size) → ∀ c ∈ nodes[i].children, i < c ∧ c < nodes.size

namespace Arena

def empty : Arena where
  nodes := #[]
  parent_lt i h := by simp at h
  child_lt i h := by simp at h

def size (a : Arena) : Nat := a.nodes.size

/-- The nodes with `id` as a further child of `parent`. -/
def link (nodes : Array Node) (parent : Option NodeId) (id : NodeId) : Array Node :=
  match parent with
  | none => nodes
  | some p => nodes.modify p fun n => { n with children := n.children.push id }

@[simp] theorem size_link (nodes : Array Node) (parent : Option NodeId) (id : NodeId) :
    (link nodes parent id).size = nodes.size := by
  cases parent <;> simp [link]

theorem parent_link {nodes : Array Node} {parent : Option NodeId} {id i : NodeId}
    (hi : i < nodes.size) (h : i < (link nodes parent id).size) :
    (link nodes parent id)[i].parent = nodes[i].parent := by
  cases parent with
  | none => rfl
  | some p => simp only [link, Array.getElem_modify]; split <;> simp_all

/-- A child after linking was a child before, or is the new one below its
parent. -/
theorem mem_children_link {nodes : Array Node} {parent : Option NodeId} {id i c : NodeId}
    (hi : i < nodes.size) (h : i < (link nodes parent id).size)
    (hc : c ∈ (link nodes parent id)[i].children) :
    c ∈ nodes[i].children ∨ (parent = some i ∧ c = id) := by
  cases parent with
  | none => exact .inl hc
  | some p =>
    simp only [link, Array.getElem_modify] at hc
    split at hc
    · simp only [Array.mem_push] at hc
      rcases hc with hc | hc
      · exact .inl hc
      · exact .inr ⟨by simp_all, hc⟩
    · exact .inl hc

/-- Adds a node as the last child of `parent`, or without a parent. -/
def push (a : Arena) (content : Content) (span : Span) (position : Text.Position)
    (parent : Option (Fin a.size)) : Arena where
  nodes := (link a.nodes (parent.map Fin.val) a.size).push
    ⟨content, parent.map Fin.val, #[], span, position⟩
  parent_lt i h p hp := by
    rw [Array.size_push, size_link] at h
    rw [Array.getElem_push] at hp
    split at hp <;> rename_i hi <;> rw [size_link] at hi
    · rw [parent_link hi] at hp
      exact a.parent_lt i hi p hp
    · obtain ⟨q, -, rfl⟩ := Option.map_eq_some_iff.mp hp
      exact Nat.lt_of_lt_of_le q.isLt (Nat.le_of_not_lt hi)
  child_lt i h c hc := by
    rw [Array.size_push, size_link] at h ⊢
    rw [Array.getElem_push] at hc
    split at hc <;> rename_i hi <;> rw [size_link] at hi
    · rcases mem_children_link hi _ hc with hc | ⟨-, rfl⟩
      · exact ⟨(a.child_lt i hi c hc).1, Nat.lt_succ_of_lt (a.child_lt i hi c hc).2⟩
      · exact ⟨hi, Nat.lt_succ_self _⟩
    · simp at hc

@[simp] theorem size_push (a : Arena) (content : Content) (span : Span)
    (position : Text.Position) (parent : Option (Fin a.size)) :
    (a.push content span position parent).size = a.size + 1 := by
  simp [push, size]

/-- Ends the span of a node. -/
def close (a : Arena) (id : NodeId) (stop : Nat) : Arena where
  nodes := a.nodes.modify id fun n => { n with span := { n.span with stop } }
  parent_lt i h p hp := by
    simp only [Array.size_modify] at h
    refine a.parent_lt i h p ?_
    simp only [Array.getElem_modify] at hp
    split at hp <;> simp_all
  child_lt i h c hc := by
    simp only [Array.size_modify] at h ⊢
    refine a.child_lt i h c ?_
    simp only [Array.getElem_modify] at hc
    split at hc <;> simp_all

@[simp] theorem size_close (a : Arena) (id : NodeId) (stop : Nat) :
    (a.close id stop).size = a.size := by
  simp [close, size]

end Arena

/-- A document: an arena, the root element in it, and the text it was read
from. -/
structure Document extends Arena where
  root : Fin nodes.size
  source : List Char

end VectorLint
