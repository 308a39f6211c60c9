/-
Where the walks of a document lead. Down from a node one meets the node and
those that have it among their ancestors, numbered without a gap; up from a
node the numbers fall, and below the root every walk up ends there.

That the numbers have no gap comes from how the arena is laid out
(`Holds.exists_range'`); what the walks meet follows from the links alone
(`IsTree`).
-/
import VectorLint.Proofs.Document.Tree

namespace VectorLint.Document

variable {source : List Char} {d : Document} {id p other : NodeId}

/-- What the walks from a node meet: down by a stack that begins with the
node, and up from its parent. -/
structure Walks (d : Document) (id : NodeId) : Prop where
  down : ∀ ids, Drains d.descend #[id] ids ↔ ids = d.descendants id
  order : d.descendants id = d.preorder id
  mem_down_iff : ∀ other, other ∈ d.descendants id ↔ other = id ∨ id ∈ d.ancestors other
  once : (d.descendants id).Nodup
  gapless : ∃ more, id + more < d.size ∧ d.descendants id = List.range' id (more + 1)
  up : ∀ ids, Drains d.climb (d.parent? id) ids ↔ ids = d.ancestors id
  falling : (id :: d.ancestors id).Pairwise (· > ·)
  ends_at_root_iff : (d.ancestors id).getLast? = some d.root.val ↔
    id ∈ d.descendants d.root ∧ id ≠ d.root.val

namespace IsTree

theorem mem_descendants_iff (h : d.IsTree) :
    other ∈ d.descendants id ↔ other = id ∨ id ∈ d.ancestors other := by
  rw [h.mem_ancestors_iff]
  by_cases heq : other = id
  · subst heq
    rw [descendants_eq]
    simp only [List.mem_cons_self, true_or]
  · simp only [heq, false_or, ne_eq, not_false_eq_true, and_true]

/-- Only the root is a parent without a parent. -/
theorem eq_root_of_parent (h : d.IsTree) (hp : d.parent? id = some p) (hnone : d.parent? p = none) :
    p = d.root.val := by
  obtain ⟨n, hn, hel⟩ := isElement_iff.mp (h.parent id p hp).2
  have hparent : n.parent = none := by rwa [parent?, hn, Option.bind_some] at hnone
  rcases h.parentless p n hn hparent with hroot | hkind
  · exact hroot
  · exact absurd hkind (Node.not_comment_of_isElement hel)

theorem getLast?_ancestors (h : d.IsTree) (hp : d.parent? id = some p) :
    (d.ancestors id).getLast? = some d.root.val := by
  induction id using Nat.strongRecOn generalizing p with
  | ind id ih =>
    rw [ancestors_of_some hp, List.getLast?_cons]
    cases hq : d.parent? p with
    | none =>
      rw [ancestors_of_none hq, h.eq_root_of_parent hp hq]
      rfl
    | some q =>
      rw [ih p (lt_of_parent? hp) hq]
      rfl

theorem getLast?_ancestors_iff (h : d.IsTree) :
    (d.ancestors id).getLast? = some d.root.val ↔ id ∈ d.descendants d.root ∧ id ≠ d.root.val := by
  rw [← h.mem_ancestors_iff]
  refine ⟨List.mem_of_getLast?, fun hmem => ?_⟩
  cases hp : d.parent? id with
  | none => simp [ancestors_of_none hp] at hmem
  | some p => exact h.getLast?_ancestors hp

end IsTree

/-- **Walks down and up fit together**, from every node of a document. -/
theorem walks_of_parse (parsed : parse source = .ok d) (within : id < d.size) : d.Walks id := by
  have htree := isTree_of_parse parsed
  obtain ⟨-, es, F, hholds⟩ := holds_of_parse parsed
  obtain ⟨more, hwithin, hrange⟩ := hholds.exists_range' within
  exact {
    down := fun ids => (drains_descend d #[id]).iff_eq
    order := descendants_eq_preorder d id
    mem_down_iff := fun other => htree.mem_descendants_iff
    once := hrange ▸ List.nodup_range'
    gapless := ⟨more, hwithin, hrange⟩
    up := fun ids => (drains_climb d id).iff_eq
    falling := pairwise_ancestors d id
    ends_at_root_iff := htree.getLast?_ancestors_iff }

/-- A group with nodes of all kinds below it, and comments beside the root. -/
def nestedGroups : List Char :=
  "<!--a--><svg><g><h>t<i><k/></i><!--b--></h><m/></g></svg><!--c-->".toList

theorem walks_nestedGroups : ∃ d, parse nestedGroups = .ok d ∧ 3 < d.size ∧ d.Walks 3 ∧
    d.descendants 3 = [3, 4, 5, 6, 7] ∧ d.ancestors 3 = [2, 1] := by
  obtain ⟨d, hd, hsize, h3, h4, h5, h6, h7, hp3, hp2, hp1⟩ : ∃ d,
      parse nestedGroups = .ok d ∧ 3 < d.size ∧ d.children 3 = [4, 5, 7] ∧ d.children 4 = [] ∧
      d.children 5 = [6] ∧ d.children 6 = [] ∧ d.children 7 = [] ∧ d.parent? 3 = some 2 ∧
      d.parent? 2 = some 1 ∧ d.parent? 1 = none :=
    ⟨_, rfl, by decide, rfl, rfl, rfl, rfl, rfl, rfl, rfl, rfl⟩
  have hwalks := walks_of_parse hd hsize
  refine ⟨d, hd, hsize, hwalks, ?_, ?_⟩
  · simp [hwalks.order, preorder_eq, h3, h4, h5, h6, h7]
  · rw [ancestors_of_some hp3, ancestors_of_some hp2, ancestors_of_none hp1]

end VectorLint.Document
