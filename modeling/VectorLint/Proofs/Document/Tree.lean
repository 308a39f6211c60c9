/-
The tree of a document. The nodes that are taken in hang together below the
root element, with nothing but comments beside it (`IsTree`), and they are
numbered as a walk from the root meets them.

`tree_of_parse`: so it is for every text that is a document. Ancestors and
descendants are then the two ways of walking the same links
(`IsTree.mem_ancestors_iff`).
-/
import Mathlib.Data.List.Count
import Mathlib.Data.List.Nodup
import Mathlib.Logic.Relation
import VectorLint.Proofs.Document.Excerpt
import VectorLint.Proofs.Markup.Tags

namespace VectorLint

open Relation

namespace Forest

variable {α : Type} {F : Forest α} {base id : Nat}

theorem bounds_of_mem_roots (h : id ∈ F.roots base) : base ≤ id ∧ id < base + F.size := by
  induction F generalizing base with
  | nil => cases h
  | node top below next _ ihn =>
    rw [size]
    rcases List.mem_cons.mp h with rfl | h
    · omega
    · have := ihn h
      omega

theorem pairwise_roots (F : Forest α) (base : Nat) : (F.roots base).Pairwise (· < ·) := by
  induction F generalizing base with
  | nil => exact .nil
  | node top below next _ ihn =>
    refine List.pairwise_cons.mpr ⟨fun id hid => ?_, ihn _⟩
    have := bounds_of_mem_roots hid
    omega

end Forest

theorem Node.isElement_iff {n : Node} : n.isElement = true ↔ n.content.kind = .element := by
  cases hc : n.content <;> simp [isElement, Content.kind, hc]

theorem Node.kind_of_isElement {n : Node} (h : n.isElement = true) : n.kind = .element := by
  cases hc : n.content with
  | element name attributes => rw [kind, hc]
  | _ => simp [isElement, hc] at h

theorem Node.not_comment_of_isElement {n : Node} (h : n.isElement = true) : n.kind ≠ .comment := by
  rw [kind_of_isElement h]
  decide

namespace Document

open Markup

variable {source : List Char} {es : List Located} {F below : Forest Placed} {top : Placed}
  {d : Document} {parent : Option NodeId} {base id a p : NodeId}

theorem isElement_iff : d.isElement id = true ↔ ∃ n, d.get? id = some n ∧ n.isElement = true :=
  Option.any_eq_true _ _

/-- The links of a document make it a tree with comments beside it, and every
node holds what its kind allows. -/
structure IsTree (d : Document) : Prop where
  root : d.isElement d.root = true ∧ d.parent? d.root = none
  parentless : ∀ id n, d.get? id = some n → n.parent = none → id = d.root.val ∨ n.kind = .comment
  parent : ∀ id p, d.parent? id = some p → p < id ∧ d.isElement p = true
  count_children : ∀ p id, (d.children p).count id = if d.parent? id = some p then 1 else 0
  children_sorted : ∀ p, (d.children p).Pairwise (· < ·)
  element : ∀ id n, d.get? id = some n → n.isElement = true →
    n.text? = none ∧ (n.attributes.map Prod.fst).Nodup
  leaf : ∀ id n, d.get? id = some n → n.isElement = false →
    d.children id = [] ∧ n.attributes = [] ∧ n.text?.isSome = true

/-! ## Walking up and down -/

theorem mem_descendants_iff :
    id ∈ d.descendants a ↔ ReflTransGen (fun p c => c ∈ d.children p) a id := by
  induction hk : d.size - a using Nat.strongRecOn generalizing a with
  | ind k ih =>
    have hbelow : ∀ c ∈ d.children a,
        (id ∈ d.descendants c ↔ ReflTransGen (fun p c => c ∈ d.children p) c id) := fun c hc => by
      obtain ⟨hlow, hhigh⟩ := lt_of_mem_children hc
      exact ih _ (hk ▸ Nat.sub_lt_sub_left (Nat.lt_trans hlow hhigh) hlow) rfl
    rw [descendants_eq, List.mem_cons, List.mem_flatMap, ReflTransGen.cases_head_iff, @eq_comm _ id a]
    exact or_congr_right (exists_congr fun c => and_congr_right fun hc => hbelow c hc)

theorem mem_ancestors_iff :
    a ∈ d.ancestors id ↔ TransGen (fun c p => d.parent? c = some p) id a := by
  induction id using Nat.strongRecOn with
  | ind id ih =>
    rw [TransGen.head'_iff]
    cases hq : d.parent? id with
    | none => simp [ancestors_of_none hq]
    | some q =>
      rw [ancestors_of_some hq, List.mem_cons, ih q (lt_of_parent? hq),
        ← reflTransGen_iff_eq_or_transGen]
      simp

theorem lt_of_transGen_children (h : TransGen (fun p c => c ∈ d.children p) a id) : a < id := by
  induction h with
  | single h => exact (lt_of_mem_children h).1
  | tail _ h ih => exact Nat.lt_trans ih (lt_of_mem_children h).1

namespace IsTree

theorem mem_children_iff (h : d.IsTree) : id ∈ d.children p ↔ d.parent? id = some p := by
  rw [← List.count_pos_iff, h.count_children]
  split <;> simp_all

/-- The ancestors of a node are those that it is a proper descendant of. -/
theorem mem_ancestors_iff (h : d.IsTree) :
    a ∈ d.ancestors id ↔ id ∈ d.descendants a ∧ id ≠ a := by
  have hswap : (fun c p => d.parent? c = some p) = Function.swap fun p c => c ∈ d.children p := by
    funext c p
    exact propext h.mem_children_iff.symm
  rw [Document.mem_ancestors_iff, mem_descendants_iff, hswap, transGen_swap,
    reflTransGen_iff_eq_or_transGen]
  constructor
  · intro hup
    exact ⟨.inr hup, (Nat.ne_of_lt (lt_of_transGen_children hup)).symm⟩
  · rintro ⟨heq | hup, hne⟩
    · exact absurd heq hne
    · exact hup

end IsTree

/-! ## What a text writes -/

theorem nodup_of_element {content : List Char} {c : Content} (h : Builder.element content = .ok c) :
    ∃ name attributes, c = .element name attributes ∧ (attributes.map Prod.fst).Nodup := by
  obtain ⟨as, has, hc⟩ := bind_eq_ok.mp h
  cases hc
  refine ⟨_, _, rfl, ?_⟩
  have hnodup := (nodup_attributes has).map fun _ _ => String.ofList_injective
  rw [List.map_map] at hnodup ⊢
  exact hnodup

theorem Leaf.nodup {e : Markup.Event} {c : Content} (h : Leaf e (some c)) :
    (∃ name attributes, c = .element name attributes ∧ (attributes.map Prod.fst).Nodup) ∨
      c.kind ≠ .element := by
  cases h with
  | empty hc => exact .inl (nodup_of_element hc)
  | _ => exact .inr (by simp [Content.kind])

/-- A node is an element whose attributes differ in their names, or there is
nothing below it. -/
theorem element_or_leaf_of_reads (h : Reads source es F) {i : Nat} (hat : Forest.At top below F i) :
    (∃ name attributes, top.content = .element name attributes ∧ (attributes.map Prod.fst).Nodup) ∨
      top.content.kind ≠ .element ∧ below = .nil := by
  induction h generalizing i with
  | nil => cases hat
  | skip _ _ ih => exact ih hat
  | leaf he _ ih =>
    cases hat with
    | first next => exact he.nodup.imp_right fun hkind => ⟨hkind, rfl⟩
    | inside hat => cases hat
    | behind hat => exact ih hat
  | element he hc _ _ _ ihK ihF =>
    cases hat with
    | first next => exact .inl (nodup_of_element hc)
    | inside hat => exact ihK hat
    | behind hat => exact ihF hat

theorem exists_top_of_mem_roots (h : F.Lies d.nodes.toList parent base) (hid : id ∈ F.roots base) :
    ∃ p ∈ F.tops, ∃ n, d.get? id = some n ∧ n.content = p.content ∧ n.parent = parent := by
  induction F generalizing base with
  | nil => cases hid
  | node top below next _ ihn =>
    rcases List.mem_cons.mp hid with rfl | hid
    · exact ⟨top, List.mem_cons_self, _, get?_of_lies h, rfl, rfl⟩
    · obtain ⟨p, hp, hn⟩ := ihn h.behind hid
      exact ⟨p, List.mem_cons_of_mem _ hp, hn⟩

theorem parent?_of_mem_roots (h : F.Lies d.nodes.toList parent base) (hid : id ∈ F.roots base) :
    d.parent? id = parent := by
  obtain ⟨-, -, n, hn, -, hparent⟩ := exists_top_of_mem_roots h hid
  rw [parent?, hn, Option.bind_some, hparent]

theorem mem_elementRoots_iff (h : F.Lies d.nodes.toList parent base) :
    id ∈ F.elementRoots base ↔ id ∈ F.roots base ∧ d.isElement id = true := by
  induction F generalizing base with
  | nil => simp [Forest.elementRoots, Forest.roots]
  | node top below next _ ihn =>
    have htop : d.isElement base = true ↔ top.content.kind = .element := by
      rw [isElement, get?_of_lies h, Option.any_some, Node.isElement_iff]
    simp only [Forest.elementRoots, Forest.roots, List.mem_cons]
    split
    · rename_i hkind
      rw [List.mem_cons, ihn h.behind]
      constructor
      · rintro (rfl | ⟨hid, hel⟩)
        · exact ⟨.inl rfl, htop.mpr hkind⟩
        · exact ⟨.inr hid, hel⟩
      · rintro ⟨rfl | hid, hel⟩
        · exact .inl rfl
        · exact .inr ⟨hid, hel⟩
    · rename_i hkind
      rw [ihn h.behind]
      constructor
      · rintro ⟨hid, hel⟩
        exact ⟨.inr hid, hel⟩
      · rintro ⟨rfl | hid, hel⟩
        · exact absurd (htop.mp hel) hkind
        · exact ⟨hid, hel⟩

namespace Holds

theorem lt_size (h : d.Holds es F) {n : Node} (hn : d.get? id = some n) : id < 0 + F.size := by
  rw [Nat.zero_add, ← size_of_layout h.nodes]
  exact (Array.getElem?_eq_some_iff.mp hn).1

theorem parent?_of_mem_children (h : d.Holds es F) (hid : id ∈ d.children p) :
    d.parent? id = some p := by
  cases hn : d.get? p with
  | none => simp [children, hn] at hid
  | some n =>
    obtain ⟨top, below, q, -, hlies, -⟩ := h.exists_tree hn
    rw [children_of_lies hlies] at hid
    exact parent?_of_mem_roots hlies.inside hid

theorem mem_children_iff (h : d.Holds es F) : id ∈ d.children p ↔ d.parent? id = some p := by
  refine ⟨h.parent?_of_mem_children, fun hp => ?_⟩
  obtain ⟨n, hn, -⟩ := Option.bind_eq_some_iff.mp hp
  rcases mem_children_of_lies h.lies (Nat.zero_le id) (h.lt_size hn) with ⟨hnone, -⟩ | ⟨q, hq, hmem⟩
  · rw [hnone] at hp
    cases hp
  · rw [hp, Option.some.injEq] at hq
    rwa [hq]

theorem mem_roots_of_parentless (h : d.Holds es F) {n : Node} (hn : d.get? id = some n)
    (hparent : n.parent = none) : id ∈ F.roots 0 := by
  have hp : d.parent? id = none := by rw [parent?, hn, Option.bind_some, hparent]
  rcases mem_children_of_lies h.lies (Nat.zero_le id) (h.lt_size hn) with ⟨-, hmem⟩ | ⟨q, hq, -⟩
  · exact hmem
  · rw [hp] at hq
    cases hq

theorem pairwise_children (h : d.Holds es F) (p : NodeId) : (d.children p).Pairwise (· < ·) := by
  cases hn : d.get? p with
  | none =>
    rw [children, hn]
    exact .nil
  | some n =>
    obtain ⟨top, below, q, -, hlies, -⟩ := h.exists_tree hn
    rw [children_of_lies hlies]
    exact Forest.pairwise_roots below (p + 1)

theorem element_or_leaf (h : d.Holds es F) {n : Node} (hn : d.get? id = some n) :
    (∃ name attributes, n.content = .element name attributes ∧ (attributes.map Prod.fst).Nodup) ∨
      n.isElement = false ∧ d.children id = [] := by
  obtain ⟨top, below, q, hat, hlies, rfl⟩ := h.exists_tree hn
  rcases element_or_leaf_of_reads h.reads hat with hel | ⟨hkind, rfl⟩
  · exact .inl hel
  · refine .inr ⟨?_, children_of_lies hlies⟩
    rw [← Bool.not_eq_true, Node.isElement_iff]
    exact hkind

/-- What is below a node is numbered without a gap. -/
theorem exists_range' (h : d.Holds es F) (hid : id < d.size) :
    ∃ more, id + more < d.size ∧ d.descendants id = List.range' id (more + 1) := by
  obtain ⟨top, below, parent, -, hlies, -⟩ := h.exists_tree (Array.getElem?_eq_getElem hid)
  have hend : id + (below.size + 1) ≤ d.nodes.toList.length := hlies.le_length
  rw [Array.length_toList] at hend
  exact ⟨below.size, hend, descendants_of_tree hlies⟩

theorem isTree (h : d.Holds es F) (htops : ∀ p ∈ F.tops, p.content.kind ≠ .text) : d.IsTree where
  root := by
    obtain ⟨hid, hel⟩ := (mem_elementRoots_iff h.lies).mp (h.root ▸ List.mem_singleton_self d.root.val)
    exact ⟨hel, parent?_of_mem_roots h.lies hid⟩
  parentless id n hn hparent := by
    have hid := h.mem_roots_of_parentless hn hparent
    obtain ⟨p, hp, n', hn', hcontent, -⟩ := exists_top_of_mem_roots h.lies hid
    rw [hn, Option.some.injEq] at hn'
    subst hn'
    cases hc : n.content with
    | element name attributes =>
      have hel : d.isElement id = true := by simp [isElement, hn, Node.isElement, hc]
      have hmem := (mem_elementRoots_iff h.lies).mpr ⟨hid, hel⟩
      rw [h.root] at hmem
      exact .inl (List.mem_singleton.mp hmem)
    | text value => exact absurd (by rw [← hcontent, hc]; rfl) (htops p hp)
    | comment value => exact .inr (by rw [Node.kind, hc])
  parent id p hp := by
    refine ⟨lt_of_parent? hp, ?_⟩
    have hid := h.mem_children_iff.mpr hp
    cases hn : d.get? p with
    | none => simp [children, hn] at hid
    | some n =>
      rcases h.element_or_leaf hn with ⟨name, attributes, hc, -⟩ | ⟨-, hnil⟩
      · simp [isElement, hn, Node.isElement, hc]
      · simp [hnil] at hid
  count_children p id := by
    have hnodup : (d.children p).Nodup := (h.pairwise_children p).imp Nat.ne_of_lt
    simp only [hnodup.count, h.mem_children_iff]
  children_sorted := h.pairwise_children
  element id n hn hel := by
    rcases h.element_or_leaf hn with ⟨name, attributes, hc, hnodup⟩ | ⟨hleaf, -⟩
    · simp [Node.text?, Node.attributes, hc, hnodup]
    · rw [hel] at hleaf
      cases hleaf
  leaf id n hn hleaf := by
    rcases h.element_or_leaf hn with ⟨name, attributes, hc, -⟩ | ⟨-, hnil⟩
    · simp [Node.isElement, hc] at hleaf
    · refine ⟨hnil, ?_⟩
      cases hc : n.content with
      | element name attributes => simp [Node.isElement, hc] at hleaf
      | _ => simp [Node.text?, Node.attributes, hc]

end Holds

/-! ## Documents -/

/-- A document holds what its text writes, which is no text outside of the
root. -/
theorem exists_holds_of_parse (h : parse source = .ok d) :
    ∃ es F, d.Holds es F ∧ ∀ p ∈ F.tops, p.content.kind ≠ .text := by
  obtain ⟨rfl, es, F, hholds⟩ := holds_of_parse h
  obtain ⟨es', b, hscan, hfold, -⟩ := parse_eq_ok.mp h
  rw [hholds.scanned, Prod.mk.injEq] at hscan
  obtain ⟨rfl, -⟩ := hscan
  obtain ⟨hfits, -⟩ := Builder.grown_of_reads hholds.reads hfold
  exact ⟨es, F, hholds, (hfits rfl).1⟩

theorem isTree_of_parse (h : parse source = .ok d) : d.IsTree := by
  obtain ⟨es, F, hholds, htops⟩ := exists_holds_of_parse h
  exact hholds.isTree htops

theorem pairwise_descendants_root (h : parse source = .ok d) :
    (d.descendants d.root).Pairwise (· < ·) := by
  obtain ⟨-, es, F, hholds⟩ := holds_of_parse h
  obtain ⟨more, -, hrange⟩ := hholds.exists_range' d.root.isLt
  rw [hrange]
  exact List.pairwise_lt_range'

/-- Only the comments around the root are not met on a walk from there. -/
theorem mem_descendants_root_iff (h : parse source = .ok d) :
    id ∈ d.descendants d.root ↔
      ∃ n, d.get? id = some n ∧ ¬ (n.parent = none ∧ n.kind = .comment) := by
  have htree := isTree_of_parse h
  obtain ⟨-, es, F, hholds⟩ := holds_of_parse h
  constructor
  · intro hid
    rcases (mem_descendants_iff.mp hid).cases_tail with rfl | ⟨p, -, hp⟩
    · obtain ⟨n, hn, hel⟩ := isElement_iff.mp htree.root.1
      exact ⟨n, hn, fun ⟨_, hkind⟩ => Node.not_comment_of_isElement hel hkind⟩
    · obtain ⟨n, hn, hparent⟩ := Option.bind_eq_some_iff.mp (htree.mem_children_iff.mp hp)
      exact ⟨n, hn, fun ⟨hnone, _⟩ => by simp [hparent] at hnone⟩
  · rintro ⟨n, hn, hmet⟩
    -- Every node is met from some top.
    have hall : id ∈ (F.roots 0).flatMap d.descendants := by
      rw [descendants_of_lies hholds.lies, List.mem_range'_1]
      exact ⟨Nat.zero_le id, hholds.lt_size hn⟩
    obtain ⟨top, htop, hid⟩ := List.mem_flatMap.mp hall
    obtain ⟨-, -, m, hm, -, hparent⟩ := exists_top_of_mem_roots hholds.lies htop
    rcases htree.parentless top m hm hparent with rfl | hkind
    · exact hid
    · have hleaf : m.isElement = false := by
        rw [← Bool.not_eq_true]
        exact fun hel => Node.not_comment_of_isElement hel hkind
      rw [descendants_eq, (htree.leaf top m hm hleaf).1, List.flatMap_nil, List.mem_singleton] at hid
      subst hid
      rw [hn, Option.some.injEq] at hm
      subst hm
      exact absurd ⟨hparent, hkind⟩ hmet

theorem not_endless (line : Nat → NodeId) : ¬ ∀ i, d.parent? (line i) = some (line (i + 1)) := by
  induction hn : line 0 using Nat.strongRecOn generalizing line with
  | ind n ih =>
    intro hline
    exact ih (line 1) (hn ▸ lt_of_parent? (hline 0)) (fun i => line (i + 1)) rfl
      fun i => hline (i + 1)

/-- **A document is a tree.** -/
theorem tree_of_parse (parsed : parse source = .ok d) :
    d.IsTree ∧ (¬ ∃ line : Nat → NodeId, ∀ i, d.parent? (line i) = some (line (i + 1))) ∧
      (d.descendants d.root).Pairwise (· < ·) ∧
      ∀ id, id ∈ d.descendants d.root ↔
        ∃ n, d.get? id = some n ∧ ¬ (n.parent = none ∧ n.kind = .comment) := by
  refine ⟨isTree_of_parse parsed, ?_, pairwise_descendants_root parsed,
    fun id => mem_descendants_root_iff parsed⟩
  rintro ⟨line, hline⟩
  exact not_endless line hline

/-- Comments on both sides of the root. -/
def commentsAround : List Char :=
  "<!--a--> <svg x='1' y='2'>t<g><!--b--><h/></g>u</svg><!--c-->".toList

theorem tree_commentsAround : ∃ d, parse commentsAround = .ok d ∧ d.IsTree ∧
    (¬ ∃ line : Nat → NodeId, ∀ i, d.parent? (line i) = some (line (i + 1))) ∧
    (d.descendants d.root).Pairwise (· < ·) ∧ 0 ∉ d.descendants d.root ∧ 4 ∈ d.descendants d.root := by
  obtain ⟨d, m, n, hd, hm, hbefore, hn, hinside⟩ : ∃ d m n, parse commentsAround = .ok d ∧
      d.get? 0 = some m ∧ (m.parent = none ∧ m.kind = .comment) ∧
      d.get? 4 = some n ∧ n.parent = some 3 :=
    ⟨_, _, _, rfl, rfl, ⟨rfl, rfl⟩, rfl, rfl⟩
  obtain ⟨htree, hlines, hsorted, hmet⟩ := tree_of_parse hd
  refine ⟨d, hd, htree, hlines, hsorted, fun h0 => ?_, (hmet 4).mpr ⟨n, hn, ?_⟩⟩
  · obtain ⟨m', hm', hnot⟩ := (hmet 0).mp h0
    rw [hm, Option.some.injEq] at hm'
    exact hnot (hm' ▸ hbefore)
  · rintro ⟨hnone, -⟩
    rw [hinside] at hnone
    cases hnone

end Document

end VectorLint
