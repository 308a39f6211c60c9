/-
What a chain matches. A chain is matched backwards, from its last compound up
through parents and ancestors; `Chain.Embeds` says forwards what is found on
the way: a node for every step, each below the one before it as the step's
combinator has it.

`select_embeddings`: in a document a chain matches the nodes in which it has
an embedding, and what a selector selects are the nodes that it matches, once
each and in order.
-/
import Mathlib.Data.List.Chain
import VectorLint.Proofs.Document.Tree
import VectorLint.Proofs.Text.Split
import VectorLint.Selector.Reader

namespace VectorLint

open Text (IsPart isBlank mem_words_iff)

variable {d : Document} {n : Node} {c : Compound} {chain : Chain} {id : NodeId}

/-! ## Compounds -/

def AttributeTest.HoldsOn (n : Node) : AttributeTest → Prop
  | .present name => ∃ value, (name, value) ∈ n.attributes
  | .equals name value => (name, value) ∈ n.attributes

/-- A node is an element that has the name, the id, the classes and the
attributes that a compound asks for. -/
structure Compound.Satisfied (c : Compound) (n : Node) : Prop where
  element : n.kind = .element
  tag : ∀ tag ∈ c.tag, n.name = tag
  id : ∀ id ∈ c.id, ("id", id) ∈ n.attributes
  classes : ∀ name ∈ c.classes, name ≠ "" ∧
    ∃ value, ("class", value) ∈ n.attributes ∧ IsPart isBlank name.toList value.toList
  attributes : ∀ test ∈ c.attributes, test.HoldsOn n

namespace Node

theorem attribute?_eq_some_iff (h : (n.attributes.map Prod.fst).Nodup) {name value : String} :
    n.attribute? name = some value ↔ (name, value) ∈ n.attributes := by
  rw [attribute?]
  generalize n.attributes = attributes at h
  induction attributes with
  | nil => simp
  | cons a attributes ih =>
    obtain ⟨key, v⟩ := a
    rw [List.map_cons, List.nodup_cons] at h
    rw [List.lookup_cons, List.mem_cons, Prod.mk.injEq]
    by_cases hkey : name = key
    · subst hkey
      have hmiss : (name, value) ∉ attributes := fun hmem => h.1 (List.mem_map.mpr ⟨_, hmem, rfl⟩)
      simp [hmiss, eq_comm]
    · simp [hkey, beq_false_of_ne, ih h.2]

theorem hasAttribute_iff (h : (n.attributes.map Prod.fst).Nodup) {name : String} :
    n.hasAttribute name = true ↔ ∃ value, (name, value) ∈ n.attributes := by
  simp only [hasAttribute, Option.isSome_iff_exists, attribute?_eq_some_iff h]

theorem mem_classes_iff (h : (n.attributes.map Prod.fst).Nodup) {name : String} :
    name ∈ n.classes ↔ name ≠ "" ∧
      ∃ value, ("class", value) ∈ n.attributes ∧ IsPart isBlank name.toList value.toList := by
  have hword : name ∈ n.classes ↔
      name.toList ∈ Text.words ((n.attribute? "class").getD "").toList := by
    rw [classes, List.mem_map]
    constructor
    · rintro ⟨word, hword, rfl⟩
      rwa [String.toList_ofList]
    · intro hword
      exact ⟨_, hword, String.ofList_toList⟩
  rw [hword]
  simp only [← attribute?_eq_some_iff h]
  cases n.attribute? "class" with
  | none => simp [Text.words, Text.splitWhere]
  | some value => simp [mem_words_iff]

theorem holds_iff (h : (n.attributes.map Prod.fst).Nodup) (test : AttributeTest) :
    test.holds n = true ↔ test.HoldsOn n := by
  cases test with
  | present name => exact hasAttribute_iff h
  | equals name value =>
    simp only [AttributeTest.holds, decide_eq_true_eq]
    exact attribute?_eq_some_iff h

end Node

theorem Document.IsTree.nodup_attributes (h : d.IsTree) (hn : d.get? id = some n) :
    (n.attributes.map Prod.fst).Nodup := by
  cases hel : n.isElement with
  | true => exact (h.element id n hn hel).2
  | false =>
    rw [(h.leaf id n hn hel).2.1]
    exact .nil

theorem Compound.matches_iff (h : (n.attributes.map Prod.fst).Nodup) :
    c.matches n = true ↔ c.Satisfied n := by
  simp only [Compound.matches, Bool.and_eq_true, Option.all_eq_true, List.all_eq_true,
    decide_eq_true_eq, List.contains_iff_mem, Node.attribute?_eq_some_iff h, Node.mem_classes_iff h,
    Node.holds_iff h, and_assoc]
  constructor
  · rintro ⟨hel, htag, hid, hclasses, hattributes⟩
    exact ⟨Node.kind_of_isElement hel, htag, hid, hclasses, hattributes⟩
  · rintro ⟨hel, htag, hid, hclasses, hattributes⟩
    exact ⟨Node.isElement_iff.mpr hel, htag, hid, hclasses, hattributes⟩

/-! ## Chains -/

/-- A compound of a chain, with the combinator before it. That of the first
joins it to nothing. -/
structure Chain.Step where
  combinator : Combinator
  compound : Compound
deriving DecidableEq, Repr

def Chain.steps : Chain → List Step
  | .single c => [⟨.descendant, c⟩]
  | .join outer combinator c => outer.steps ++ [⟨combinator, c⟩]

/-- How a node lies below another. -/
def Combinator.Relates (d : Document) (outer inner : NodeId) : Combinator → Prop
  | .child => inner ∈ d.children outer
  | .descendant => inner ∈ d.descendants outer ∧ inner ≠ outer

/-- A node for every step of a chain, each an element that satisfies the
compound and lies below the node before it. -/
structure Chain.Embeds (d : Document) (chain : Chain) (walk : List (Step × NodeId)) : Prop where
  steps : walk.map Prod.fst = chain.steps
  satisfied : ∀ p ∈ walk, ∃ n, d.get? p.2 = some n ∧ p.1.compound.Satisfied n
  related : walk.IsChain fun a b => b.1.combinator.Relates d a.2 b.2

namespace Chain

theorem steps_ne_nil (chain : Chain) : chain.steps ≠ [] := by
  cases chain <;> simp [steps]

theorem embeds_single_iff {walk : List (Step × NodeId)} :
    (Chain.single c).Embeds d walk ↔
      ∃ id n, walk = [(⟨.descendant, c⟩, id)] ∧ d.get? id = some n ∧ c.Satisfied n := by
  constructor
  · rintro ⟨hsteps, hsat, -⟩
    obtain ⟨⟨step, id⟩, rfl, rfl⟩ := List.map_eq_singleton_iff.mp hsteps
    obtain ⟨n, hn, hc⟩ := hsat _ (List.mem_singleton_self _)
    exact ⟨id, n, rfl, hn, hc⟩
  · rintro ⟨id, n, rfl, hn, hc⟩
    exact ⟨rfl, by simpa using ⟨n, hn, hc⟩, .singleton _⟩

/-- The last step of an embedding goes down from the node before it. -/
theorem embeds_join_iff {outer : Chain} {k : Combinator} {walk : List (Step × NodeId)} :
    (Chain.join outer k c).Embeds d walk ↔
      ∃ front p id n, walk = front ++ [(⟨k, c⟩, id)] ∧
        outer.Embeds d front ∧ (front.map Prod.snd).getLast? = some p ∧ k.Relates d p id ∧
        d.get? id = some n ∧ c.Satisfied n := by
  constructor
  · rintro ⟨hsteps, hsat, hrel⟩
    obtain ⟨front, last, rfl, hfront, hlast⟩ := List.map_eq_append_iff.mp hsteps
    obtain ⟨⟨step, id⟩, rfl, rfl⟩ := List.map_eq_singleton_iff.mp hlast
    obtain ⟨hrel, -, hk⟩ := List.isChain_append.mp hrel
    obtain ⟨n, hn, hc⟩ := hsat (⟨k, c⟩, id) (by simp)
    have hne : front ≠ [] := by
      rintro rfl
      exact steps_ne_nil outer hfront.symm
    obtain ⟨⟨step, p⟩, hp⟩ : ∃ q, front.getLast? = some q := ⟨_, List.getLast?_eq_some_getLast hne⟩
    exact ⟨front, p, id, n, rfl, ⟨hfront, fun q hq => hsat q (List.mem_append_left _ hq), hrel⟩,
      by rw [List.getLast?_map, hp]; rfl, hk (step, p) hp _ rfl, hn, hc⟩
  · rintro ⟨front, p, id, n, rfl, ⟨hsteps, hsat, hrel⟩, hp, hk, hn, hc⟩
    refine ⟨by rw [List.map_append, hsteps]; rfl, fun q hq => ?_, ?_⟩
    · rcases List.mem_append.mp hq with hq | hq
      · exact hsat q hq
      · rw [List.mem_singleton.mp hq]
        exact ⟨n, hn, hc⟩
    · refine List.isChain_append.mpr ⟨hrel, .singleton _, fun q hq r hr => ?_⟩
      rw [List.getLast?_map, Option.mem_def.mp hq] at hp
      cases hp
      cases hr
      exact hk

/-- The nodes that are tried for a step above a node are those that it relates
to. -/
theorem matches_join_iff (h : d.IsTree) {outer : Chain} {k : Combinator} :
    (Chain.join outer k c).matches d id = true ↔
      (∃ n, d.get? id = some n ∧ c.matches n = true) ∧
        ∃ p, k.Relates d p id ∧ outer.matches d p = true := by
  rw [Chain.matches.eq_def, Bool.and_eq_true, Option.any_eq_true]
  refine and_congr_right fun _ => ?_
  cases k with
  | child =>
    simp only [Option.any_eq_true, Combinator.Relates, h.mem_children_iff]
  | descendant =>
    simp only [List.any_eq_true, Combinator.Relates, h.mem_ancestors_iff]

theorem matches_iff (h : d.IsTree) :
    chain.matches d id = true ↔
      ∃ walk, chain.Embeds d walk ∧ (walk.map Prod.snd).getLast? = some id := by
  have hcompound {c : Compound} {id : NodeId} : (∃ n, d.get? id = some n ∧ c.matches n = true) ↔
      ∃ n, d.get? id = some n ∧ c.Satisfied n :=
    exists_congr fun n => and_congr_right fun hn => Compound.matches_iff (h.nodup_attributes hn)
  induction chain generalizing id with
  | single c =>
    rw [Chain.matches, Option.any_eq_true, hcompound]
    constructor
    · rintro ⟨n, hn, hc⟩
      exact ⟨[(_, id)], embeds_single_iff.mpr ⟨id, n, rfl, hn, hc⟩, rfl⟩
    · rintro ⟨walk, hwalk, hlast⟩
      obtain ⟨id', n, rfl, hn, hc⟩ := embeds_single_iff.mp hwalk
      cases hlast
      exact ⟨n, hn, hc⟩
  | join outer k c ih =>
    rw [matches_join_iff h, hcompound]
    simp only [ih]
    constructor
    · rintro ⟨⟨n, hn, hc⟩, p, hk, front, hfront, hp⟩
      exact ⟨_, embeds_join_iff.mpr ⟨front, p, id, n, rfl, hfront, hp, hk, hn, hc⟩, by simp⟩
    · rintro ⟨walk, hwalk, hlast⟩
      obtain ⟨front, p, id', n, rfl, hfront, hp, hk, hn, hc⟩ := embeds_join_iff.mp hwalk
      obtain rfl : id' = id := by simpa using hlast
      exact ⟨⟨n, hn, hc⟩, p, hk, front, hfront, hp⟩

theorem isElement_of_matches (h : chain.matches d id = true) : d.isElement id = true := by
  have hcompound {c : Compound} (hc : (d.get? id).any c.matches = true) : d.isElement id = true := by
    obtain ⟨n, hn, hc⟩ := (Option.any_eq_true _ _).mp hc
    simp only [Compound.matches, Bool.and_eq_true] at hc
    exact Document.isElement_iff.mpr ⟨n, hn, hc.1.1.1.1⟩
  cases chain with
  | single c => exact hcompound h
  | join outer k c =>
    rw [Chain.matches.eq_def, Bool.and_eq_true] at h
    exact hcompound h.1

end Chain

/-! ## Selectors -/

namespace Document

variable {source : List Char}

theorem pairwise_select (parsed : parse source = .ok d) (s : Selector) :
    (d.select s).Pairwise (· < ·) :=
  ((pairwise_descendants_root parsed).filter _).filter _

theorem mem_select_iff (parsed : parse source = .ok d) {s : Selector} :
    id ∈ d.select s ↔ s.matches d id = true := by
  rw [select, elements, List.mem_filter, List.mem_filter, mem_descendants_root_iff parsed]
  refine and_iff_right_of_imp fun hmatch => ?_
  obtain ⟨chain, -, hchain⟩ := List.any_eq_true.mp hmatch
  have hel := Chain.isElement_of_matches hchain
  obtain ⟨n, hn, hn'⟩ := isElement_iff.mp hel
  exact ⟨⟨n, hn, fun ⟨_, hkind⟩ => Node.not_comment_of_isElement hn' hkind⟩, hel⟩

/-- **A selector selects where its chains embed.** -/
theorem select_embeddings (parsed : parse source = .ok d) (s : Selector) :
    (∀ id, s.matches d id = true ↔ ∃ chain ∈ s.chains, ∃ walk,
      chain.Embeds d walk ∧ (walk.map Prod.snd).getLast? = some id) ∧
    (d.select s).Pairwise (· < ·) ∧ ∀ id, id ∈ d.select s ↔ s.matches d id = true := by
  refine ⟨fun id => ?_, pairwise_select parsed s, fun id => mem_select_iff parsed⟩
  simp only [Selector.matches, List.any_eq_true, Chain.matches_iff (isTree_of_parse parsed)]

/-- Of the two elements `b` above `c`, the nearer is no child of `a`. -/
def nested : List Char :=
  "<a><b><g><b><c/></b></g></b></a>".toList

def named (tag : String) : Compound :=
  ⟨some tag, none, [], []⟩

def nestedSelector : Selector where
  source := "a > b c, c"
  chains := [.join (.join (.single (named "a")) .child (named "b")) .descendant (named "c"),
    .single (named "c")]

/-- The first chain goes on to the higher `b`; the second matches the same
node. -/
theorem select_nested : Selector.parse "a > b c, c" = .ok nestedSelector ∧
    ∃ d, parse nested = .ok d ∧ 4 ∈ d.select nestedSelector ∧ 3 ∉ d.select nestedSelector ∧
      (d.select nestedSelector).Pairwise (· < ·) := by
  refine ⟨by decide +kernel, ?_⟩
  obtain ⟨d, n₀, n₁, n₃, n₄, hd, ⟨hn₀, ha⟩, ⟨hn₁, hb⟩, ⟨hn₃, hmiss⟩, ⟨hn₄, hc⟩, h₀, h₁, h₂, h₃⟩ :
      ∃ d n₀ n₁ n₃ n₄, parse nested = .ok d ∧
        (d.get? 0 = some n₀ ∧ (named "a").matches n₀ = true) ∧
        (d.get? 1 = some n₁ ∧ (named "b").matches n₁ = true) ∧
        (d.get? 3 = some n₃ ∧ (named "c").matches n₃ = false) ∧
        (d.get? 4 = some n₄ ∧ (named "c").matches n₄ = true) ∧
        d.children 0 = [1] ∧ d.children 1 = [2] ∧ d.children 2 = [3] ∧ d.children 3 = [4] :=
    ⟨_, _, _, _, _, rfl, ⟨rfl, rfl⟩, ⟨rfl, rfl⟩, ⟨rfl, rfl⟩, ⟨rfl, rfl⟩, rfl, rfl, rfl, rfl⟩
  have hsat {c : Compound} {id : NodeId} {n : Node} (hn : d.get? id = some n)
      (hc : c.matches n = true) : ∃ n, d.get? id = some n ∧ c.Satisfied n :=
    ⟨n, hn, (Compound.matches_iff ((isTree_of_parse hd).nodup_attributes hn)).mp hc⟩
  have hbelow : 4 ∈ d.descendants 1 := mem_descendants_iff.mpr <|
    .head (b := 2) (by simp [h₁]) (.head (b := 3) (by simp [h₂]) (.single (by simp [h₃])))
  obtain ⟨hmatch, hsorted, hselect⟩ := select_embeddings hd nestedSelector
  refine ⟨d, hd, (hselect 4).mpr ((hmatch 4).mpr ?_), fun h3 => ?_, hsorted⟩
  · refine ⟨_, List.mem_cons_self, [(⟨.descendant, named "a"⟩, 0), (⟨.child, named "b"⟩, 1),
      (⟨.descendant, named "c"⟩, 4)], ⟨rfl, ?_, ?_⟩, rfl⟩
    · simpa using ⟨hsat hn₀ ha, hsat hn₁ hb, hsat hn₄ hc⟩
    · exact .cons_cons (by simp [Combinator.Relates, h₀])
        (.cons_cons ⟨hbelow, by decide⟩ (.singleton _))
  · have h3 := (hselect 3).mp h3
    simp [Selector.matches, nestedSelector, Chain.matches, hn₃, hmiss] at h3

end Document

end VectorLint
