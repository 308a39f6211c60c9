/-
Forests, and how an arena holds one. The nodes of a forest, each before what
is below it, stand in the arena one after the other; so a node's number and
the sizes of forests give the numbers of its children (`layout`), and a
number the tree that stands there (`At`).

The way back is `Document.forest`, read off along the children. A document
whose arena is a layout has that forest (`forest_of_layout`), and below each
node the numbers are consecutive (`descendants_of_lies`).
-/
import VectorLint.Proofs.Document.Stepping

namespace VectorLint

/-- Trees one behind the other: none, or a first tree, given by its top and
the trees below that, and the trees behind it. -/
inductive Forest (α : Type)
  | nil
  | node (top : α) (below next : Forest α)
deriving DecidableEq, Repr

/-- A node without its links. -/
structure Placed where
  content : Content
  span : Span
  position : Text.Position
deriving DecidableEq, Repr

namespace Forest

variable {α β : Type}

def size : Forest α → Nat
  | nil => 0
  | node _ below next => below.size + next.size + 1

def map (f : α → β) : Forest α → Forest β
  | nil => nil
  | node top below next => node (f top) (below.map f) (next.map f)

theorem size_map (f : α → β) (F : Forest α) : (F.map f).size = F.size := by
  induction F with
  | nil => rfl
  | node top below next ihb ihn => simp only [map, size, ihb, ihn]

/-- The tops of the trees. -/
def tops : Forest α → List α
  | nil => []
  | node top _ next => top :: next.tops

/-- The numbers of the tops, if nodes are numbered from `base` on. -/
def roots : Forest α → (base : Nat) → List Nat
  | nil, _ => []
  | node _ below next, base => base :: next.roots (base + 1 + below.size)

theorem roots_map (f : α → β) (F : Forest α) (base : Nat) : (F.map f).roots base = F.roots base := by
  induction F generalizing base with
  | nil => rfl
  | node top below next ihb ihn => simp only [map, roots, size_map, ihn]

theorem roots_of_map {f : α → β} {F F' : Forest α} (h : F'.map f = F.map f) (base : Nat) :
    F'.roots base = F.roots base := by
  rw [← roots_map f, h, roots_map]

theorem roots_add (F : Forest α) (base shift : Nat) :
    F.roots (base + shift) = (F.roots base).map (· + shift) := by
  induction F generalizing base with
  | nil => rfl
  | node top below next ihb ihn =>
    simp only [roots, List.map_cons, List.cons.injEq, true_and]
    rw [← ihn]
    congr 1
    omega

/-- The nodes of an arena that hold a forest, from number `base` on. -/
def layout : Forest Placed → (parent : Option NodeId) → (base : NodeId) → List Node
  | nil, _, _ => []
  | node top below next, parent, base =>
    ⟨top.content, parent, (below.roots (base + 1)).toArray, top.span, top.position⟩ ::
      (below.layout (some base) (base + 1) ++ next.layout parent (base + 1 + below.size))

@[simp] theorem length_layout (F : Forest Placed) (parent : Option NodeId) (base : NodeId) :
    (F.layout parent base).length = F.size := by
  induction F generalizing parent base with
  | nil => rfl
  | node top below next ihb ihn => simp [layout, size, ihb, ihn]

/-! ## Trees in a forest -/

/-- The node with number `i` is `top`, and `below` is what is below it. -/
inductive At (top : α) (below : Forest α) : Forest α → (i : Nat) → Prop
  | first (next : Forest α) : At top below (node top below next) 0
  | inside {i : Nat} {a : α} {F next : Forest α} (h : At top below F i) :
      At top below (node a F next) (1 + i)
  | behind {i : Nat} {a : α} {F next : Forest α} (h : At top below next i) :
      At top below (node a F next) (1 + F.size + i)

theorem exists_at {F : Forest α} {i : Nat} (h : i < F.size) : ∃ top below, At top below F i := by
  induction F generalizing i with
  | nil => exact absurd h (Nat.not_lt_zero i)
  | node a F next ihF ihn =>
    rw [size] at h
    cases i with
    | zero => exact ⟨a, F, .first next⟩
    | succ i =>
      by_cases hi : i < F.size
      · obtain ⟨top, below, hat⟩ := ihF hi
        exact ⟨top, below, Nat.add_comm 1 i ▸ .inside hat⟩
      · obtain ⟨top, below, hat⟩ := ihn (i := i - F.size) (by omega)
        have hplace : i + 1 = 1 + F.size + (i - F.size) := by omega
        exact ⟨top, below, hplace ▸ .behind hat⟩

/-- Forests with the same nodes have the same trees in the same places. -/
theorem At.map_eq {f : α → β} {F F' : Forest α} {top : α} {below : Forest α} {i : Nat}
    (h : At top below F i) (hmap : F'.map f = F.map f) :
    ∃ top' below', At top' below' F' i ∧ f top' = f top ∧ below'.map f = below.map f := by
  induction h generalizing F' with
  | first next =>
    cases F' with
    | nil => cases hmap
    | node top' below' next' =>
      rw [map, map, node.injEq] at hmap
      exact ⟨top', below', .first next', hmap.1, hmap.2.1⟩
  | inside _ ih =>
    cases F' with
    | nil => cases hmap
    | node a' G' next' =>
      rw [map, map, node.injEq] at hmap
      obtain ⟨top', below', hat, htop, hbelow⟩ := ih hmap.2.1
      exact ⟨top', below', .inside hat, htop, hbelow⟩
  | @behind i a G next _ ih =>
    cases F' with
    | nil => cases hmap
    | node a' G' next' =>
      rw [map, map, node.injEq] at hmap
      obtain ⟨top', below', hat, htop, hbelow⟩ := ih hmap.2.2
      have hsize : G.size = G'.size := by rw [← size_map f G, ← hmap.2.1, size_map]
      exact ⟨top', below', hsize ▸ .behind hat, htop, hbelow⟩

/-! ## Forests in an arena -/

/-- The nodes from number `base` on are those of the forest. -/
def Lies (F : Forest Placed) (nodes : List Node) (parent : Option NodeId) (base : NodeId) : Prop :=
  ∃ before after, nodes = before ++ F.layout parent base ++ after ∧ before.length = base

theorem lies_layout (F : Forest Placed) (parent : Option NodeId) :
    F.Lies (F.layout parent 0) parent 0 :=
  ⟨[], [], by simp, rfl⟩

variable {nodes : List Node} {parent : Option NodeId} {base : Nat} {top : Placed}
  {below next : Forest Placed}

theorem Lies.getElem? (h : (node top below next).Lies nodes parent base) :
    nodes[base]? =
      some ⟨top.content, parent, (below.roots (base + 1)).toArray, top.span, top.position⟩ := by
  obtain ⟨before, after, rfl, rfl⟩ := h
  simp [layout]

theorem Lies.inside (h : (node top below next).Lies nodes parent base) :
    below.Lies nodes (some base) (base + 1) := by
  obtain ⟨before, after, rfl, hbase⟩ := h
  exact ⟨before ++ [⟨top.content, parent, (below.roots (base + 1)).toArray, top.span, top.position⟩],
    next.layout parent (base + 1 + below.size) ++ after, by simp [layout], by simp [hbase]⟩

theorem Lies.behind (h : (node top below next).Lies nodes parent base) :
    next.Lies nodes parent (base + 1 + below.size) := by
  obtain ⟨before, after, rfl, hbase⟩ := h
  refine ⟨before ++ ⟨top.content, parent, (below.roots (base + 1)).toArray, top.span, top.position⟩ ::
    below.layout (some base) (base + 1), after, by simp [layout], ?_⟩
  simp only [List.length_append, List.length_cons, length_layout]
  omega

theorem Lies.le_length {F : Forest Placed} (h : F.Lies nodes parent base) :
    base + F.size ≤ nodes.length := by
  obtain ⟨before, after, rfl, rfl⟩ := h
  simp only [List.length_append, length_layout]
  omega

/-- The first tree alone. -/
theorem Lies.alone (h : (node top below next).Lies nodes parent base) :
    (node top below nil).Lies nodes parent base := by
  obtain ⟨before, after, rfl, hbase⟩ := h
  exact ⟨before, next.layout parent (base + 1 + below.size) ++ after, by simp [layout], hbase⟩

theorem Lies.tree {F : Forest Placed} {i : Nat} (h : F.Lies nodes parent base)
    (hat : At top below F i) : ∃ p, (node top below nil).Lies nodes p (base + i) := by
  induction hat generalizing parent base with
  | first next => exact ⟨parent, h.alone⟩
  | inside _ ih =>
    obtain ⟨p, hp⟩ := ih h.inside
    exact ⟨p, Nat.add_assoc base 1 _ ▸ hp⟩
  | @behind i a F next _ ih =>
    obtain ⟨p, hp⟩ := ih h.behind
    have hplace : base + 1 + F.size + i = base + (1 + F.size + i) := by omega
    exact ⟨p, hplace ▸ hp⟩

end Forest

namespace Document

/-! ## The forest of a document -/

/-- The trees that begin at the given nodes, when `below` tells what is below
a node. -/
def gather (d : Document) (ids : List NodeId) (below : ∀ id ∈ ids, Forest Content) : Forest Content :=
  ids.attach.foldr (fun id next => match d.get? id.val with
    | some n => .node n.content (below id.val id.property) next
    | none => next) .nil

theorem gather_cons (d : Document) (id : NodeId) (ids : List NodeId) (below : NodeId → Forest Content) :
    d.gather (id :: ids) (fun id _ => below id) =
      match d.get? id with
      | some n => .node n.content (below id) (d.gather ids fun id _ => below id)
      | none => d.gather ids fun id _ => below id := by
  simp only [gather]
  rw [List.attach_cons, List.foldr_cons, List.foldr_map]

/-- The trees below a node. -/
def below (d : Document) (id : NodeId) : Forest Content :=
  d.gather (d.children id) fun c _h => d.below c
termination_by d.size - id
decreasing_by
  have h := lt_of_mem_children _h
  exact Nat.sub_lt_sub_left (Nat.lt_trans h.1 h.2) h.1

/-- The nodes without a parent. -/
def tops (d : Document) : List NodeId :=
  (List.range d.size).filter fun id => (d.parent? id).isNone

/-- Everything in the arena, as trees. -/
def forest (d : Document) : Forest Content :=
  d.gather d.tops fun id _ => d.below id

variable {d : Document} {F : Forest Placed} {parent : Option NodeId} {base : Nat} {top : Placed}
  {below next : Forest Placed}

theorem get?_of_lies (h : (Forest.node top below next).Lies d.nodes.toList parent base) :
    d.get? base =
      some ⟨top.content, parent, (below.roots (base + 1)).toArray, top.span, top.position⟩ := by
  rw [get?, ← Array.getElem?_toList]
  exact h.getElem?

theorem children_of_lies (h : (Forest.node top below next).Lies d.nodes.toList parent base) :
    d.children base = below.roots (base + 1) := by
  rw [children, get?_of_lies h]

theorem parent?_of_lies (h : (Forest.node top below next).Lies d.nodes.toList parent base) :
    d.parent? base = parent := by
  rw [parent?, get?_of_lies h, Option.bind_some]

theorem gather_of_lies (h : F.Lies d.nodes.toList parent base) :
    (d.gather (F.roots base) fun id _ => d.below id) = F.map Placed.content := by
  induction F generalizing parent base with
  | nil => rfl
  | node top below next ihb ihn =>
    rw [Forest.roots, gather_cons, get?_of_lies h, Document.below, children_of_lies h, ihb h.inside,
      ihn h.behind]
    rfl

/-- Of the nodes of a forest only the tops can be without a parent. -/
theorem parentless_of_lies (h : F.Lies d.nodes.toList parent base) :
    (List.range' base F.size).filter (fun id => (d.parent? id).isNone) =
      if parent.isNone then F.roots base else [] := by
  induction F generalizing parent base with
  | nil => cases parent <;> rfl
  | node top below next ihb ihn =>
    have hsplit : List.range' base (Forest.node top below next).size =
        base :: (List.range' (base + 1) below.size ++
          List.range' (base + 1 + below.size) next.size) := by
      rw [List.range'_append_1, Forest.size, List.range'_succ]
    rw [hsplit, List.filter_cons, List.filter_append, ihb h.inside, ihn h.behind, parent?_of_lies h]
    cases parent <;> simp [Forest.roots]

theorem size_of_layout (h : d.nodes.toList = F.layout none 0) : d.size = F.size := by
  rw [Arena.size, ← Array.length_toList, h, Forest.length_layout]

theorem tops_of_layout (h : d.nodes.toList = F.layout none 0) : d.tops = F.roots 0 := by
  have hlies : F.Lies d.nodes.toList none 0 := h ▸ F.lies_layout none
  rw [tops, size_of_layout h, List.range_eq_range']
  exact parentless_of_lies hlies

/-- **The forest of a laid out arena** is the forest that was laid out. -/
theorem forest_of_layout (h : d.nodes.toList = F.layout none 0) :
    d.forest = F.map Placed.content := by
  have hlies : F.Lies d.nodes.toList none 0 := h ▸ F.lies_layout none
  rw [forest, tops_of_layout h]
  exact gather_of_lies hlies

/-- A node is a top, or a child of its parent. -/
theorem mem_children_of_lies (h : F.Lies d.nodes.toList parent base) {id : Nat}
    (hlow : base ≤ id) (hhigh : id < base + F.size) :
    d.parent? id = parent ∧ id ∈ F.roots base ∨ ∃ p, d.parent? id = some p ∧ id ∈ d.children p := by
  induction F generalizing parent base with
  | nil => exact absurd hhigh (Nat.not_lt.mpr hlow)
  | node top below next ihb ihn =>
    rw [Forest.size] at hhigh
    by_cases hfirst : id = base
    · subst hfirst
      exact .inl ⟨parent?_of_lies h, List.mem_cons_self⟩
    · by_cases hinside : id < base + 1 + below.size
      · rcases ihb h.inside (by omega) hinside with ⟨hparent, hmem⟩ | hchild
        · exact .inr ⟨base, hparent, by rwa [children_of_lies h]⟩
        · exact .inr hchild
      · rcases ihn h.behind (by omega) (by omega) with ⟨hparent, hmem⟩ | hchild
        · exact .inl ⟨hparent, List.mem_cons_of_mem _ hmem⟩
        · exact .inr hchild

/-- Below a node the numbers are consecutive. -/
theorem descendants_of_lies (h : F.Lies d.nodes.toList parent base) :
    (F.roots base).flatMap d.descendants = List.range' base F.size := by
  induction F generalizing parent base with
  | nil => rfl
  | node top below next ihb ihn =>
    have hbelow : d.descendants base = base :: List.range' (base + 1) below.size := by
      rw [descendants_eq, children_of_lies h, ihb h.inside]
    rw [Forest.roots, List.flatMap_cons, hbelow, ihn h.behind, List.cons_append,
      List.range'_append_1, Forest.size, List.range'_succ]

end Document

end VectorLint
