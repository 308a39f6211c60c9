/-
Walking through a document: from a node to its relatives, and from a node to
its place in the source. A walk downwards goes by a stack; with each step what
is ahead of it loses its first node (`ahead_of_descend`), so it ends.
-/
import VectorLint.Document.Basic
import VectorLint.Text.Bytes
import VectorLint.Text.Split

namespace VectorLint.Document

def get? (d : Document) (id : NodeId) : Option Node :=
  d.nodes[id]?

def parent? (d : Document) (id : NodeId) : Option NodeId :=
  (d.get? id).bind Node.parent

def children (d : Document) (id : NodeId) : List NodeId :=
  match d.get? id with
  | some n => n.children.toList
  | none => []

def isElement (d : Document) (id : NodeId) : Bool :=
  (d.get? id).any Node.isElement

def elementChildren (d : Document) (id : NodeId) : List NodeId :=
  (d.children id).filter d.isElement

theorem lt_of_parent? {d : Document} {id p : NodeId} (h : d.parent? id = some p) : p < id := by
  simp only [parent?, get?, Option.bind_eq_some_iff] at h
  obtain ⟨n, hn, hp⟩ := h
  obtain ⟨hlt, rfl⟩ := Array.getElem?_eq_some_iff.mp hn
  exact d.parent_lt id hlt p hp

theorem lt_of_mem_children {d : Document} {id c : NodeId} (h : c ∈ d.children id) :
    id < c ∧ c < d.size := by
  simp only [children] at h
  split at h
  · rename_i n hn
    obtain ⟨hlt, rfl⟩ := Array.getElem?_eq_some_iff.mp hn
    exact d.child_lt id hlt c (by simpa using h)
  · simp at h

/-- The parent of a node, its parent and so on, up to the root. -/
def ancestors (d : Document) (id : NodeId) : List NodeId :=
  match _h : d.parent? id with
  | none => []
  | some p => p :: d.ancestors p
termination_by id
decreasing_by exact lt_of_parent? _h

/-- A node and all that is below it, each node before its children and what is
below a child before the next one. -/
def preorder (d : Document) (id : NodeId) : List NodeId :=
  id :: (d.children id).attach.flatMap fun c => d.preorder c.val
termination_by d.size - id
decreasing_by
  have h := lt_of_mem_children c.property
  exact Nat.sub_lt_sub_left (Nat.lt_trans h.1 h.2) h.1

theorem preorder_eq (d : Document) (id : NodeId) :
    d.preorder id = id :: (d.children id).flatMap d.preorder := by
  rw [preorder, List.flatMap_subtype fun _ _ => rfl, List.unattach_attach]

/-- One step of a walk downwards. The nodes from which it has still to go on
stand on a stack; the last one is met, and its children take its place there,
the first of them last. -/
def descend (d : Document) (stack : Array NodeId) : Option (NodeId × Array NodeId) :=
  stack.back?.map fun id => (id, stack.pop ++ (d.children id).reverse)

/-- What a walk has still to meet, in order. -/
def ahead (d : Document) (stack : Array NodeId) : List NodeId :=
  stack.toList.reverse.flatMap d.preorder

/-- A step meets the first node of what is ahead, and leaves the others
ahead. -/
theorem ahead_of_descend {d : Document} {stack rest : Array NodeId} {id : NodeId}
    (h : d.descend stack = some (id, rest)) : d.ahead stack = id :: d.ahead rest := by
  obtain ⟨last, hlast, hstep⟩ := Option.map_eq_some_iff.mp h
  cases hstep
  obtain ⟨before, rfl⟩ := Array.back?_eq_some_iff.mp hlast
  simp [ahead, d.preorder_eq id]

/-- The nodes that a walk meets until its stack is empty. -/
def drain (d : Document) (stack : Array NodeId) : List NodeId :=
  match _h : d.descend stack with
  | none => []
  | some (id, rest) => id :: d.drain rest
termination_by (d.ahead stack).length
decreasing_by
  rw [ahead_of_descend _h]
  exact Nat.lt_succ_self _

/-- A node and all that is below it, depth first, in source order. -/
def descendants (d : Document) (id : NodeId) : List NodeId :=
  d.drain #[id]

/-- The elements of the document in source order. -/
def elements (d : Document) : List NodeId :=
  (d.descendants d.root).filter d.isElement

/-- The source text of a node with what is below it. -/
def outerMarkup (d : Document) (n : Node) : String :=
  String.ofList ((Text.sliceBytes d.source n.span.start n.span.stop).getD [])

/-- The line of the source on which a node starts. -/
def sourceLine? (d : Document) (n : Node) : Option String :=
  match n.position.line with
  | 0 => none
  | line + 1 => (Text.line? d.source line).map String.ofList

end VectorLint.Document
