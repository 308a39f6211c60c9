/-
The text of an element. Where a node stands in the text, the pieces of the
text that write the tree below it stand too, and no others; so spans are
nested as the nodes are (`Laminar`), and the span of an element is a document
of its own.

`parse_outerMarkup`: the text of an element is read as a copy of the element
with all that is below it.
-/
import VectorLint.Proofs.Document.Parsing

namespace VectorLint

open Markup

theorem Markup.Spells.byteLength_pos {a : List Char} {e : Markup.Event} (h : Spells a e) :
    0 < Text.byteLength a := by
  obtain ⟨c, s, rfl⟩ := List.exists_cons_of_ne_nil h.nonempty
  have hc := c.utf8Size_pos
  rw [Text.byteLength]
  omega

/-! ## Nested spans -/

/-- The spans of the tops stand one behind the other between `low` and `high`,
each around the spans below it. -/
def Forest.Nested : Forest Placed → (low high : Nat) → Prop
  | nil, low, high => low ≤ high
  | node top below next, low, high =>
    low ≤ top.span.start ∧ top.span.start < top.span.stop ∧
      below.Nested top.span.start top.span.stop ∧ next.Nested top.span.stop high

namespace Forest

variable {F K : Forest Placed} {p : Placed} {low high : Nat}

theorem Nested.le (h : F.Nested low high) : low ≤ high := by
  induction F generalizing low with
  | nil => exact h
  | node top below next _ ihn =>
    obtain ⟨hlow, hne, -, hnext⟩ := h
    have := ihn hnext
    omega

theorem Nested.widen {low' high' : Nat} (h : F.Nested low high) (hlow : low' ≤ low)
    (hhigh : high ≤ high') : F.Nested low' high' := by
  induction F generalizing low low' with
  | nil => exact Nat.le_trans hlow (Nat.le_trans h hhigh)
  | node top below next _ ihn =>
    obtain ⟨hstart, hne, hbelow, hnext⟩ := h
    exact ⟨Nat.le_trans hlow hstart, hne, hbelow, ihn hnext (Nat.le_refl _)⟩

theorem Nested.tree {i : Nat} (h : F.Nested low high) (hat : At p K F i) :
    p.span.start < p.span.stop ∧ K.Nested p.span.start p.span.stop := by
  induction hat generalizing low high with
  | first next => exact ⟨h.2.1, h.2.2.1⟩
  | inside _ ih => exact ih h.2.2.1
  | behind _ ih => exact ih h.2.2.2

end Forest

namespace Document

variable {source text : List Char} {es : List Located} {F K : Forest Placed} {p : Placed}
  {d : Document}

/-- A text that is written in pieces is as long as the pieces: the spans of
what it writes are nested in it. -/
theorem nested_of_reads (h : Reads source es F) {offset : Nat} (hs : Spelled offset text es) :
    F.Nested offset (offset + Text.byteLength text) := by
  induction h generalizing offset text with
  | nil =>
    cases hs
    exact Nat.le_refl offset
  | skip _ _ ih =>
    cases hs with
    | cons _ _ hs =>
      have hF := ih hs
      rw [Nat.add_assoc, ← Text.byteLength_append] at hF
      exact hF.widen (Nat.le_add_right _ _) (Nat.le_refl _)
  | leaf _ _ ih =>
    cases hs with
    | cons ha _ hs =>
      have hF := ih hs
      have hpos := ha.byteLength_pos
      rw [Text.byteLength_append, ← Nat.add_assoc]
      exact ⟨Nat.le_refl _, Nat.lt_add_of_pos_right hpos, Nat.le_add_right _ _, hF⟩
  | element _ _ _ _ _ ihK ihF =>
    cases hs with
    | @cons _ a _ _ _ ha _ hs =>
      obtain ⟨b, rest, rfl, hinner, hrest⟩ := hs.split
      cases hrest with
      | @cons _ a' rest _ _ ha' _ hrest =>
        have hK := ihK hinner
        have hF := ihF hrest
        have hpos := ha.byteLength_pos
        simp only [Text.byteLength_append]
        refine ⟨Nat.le_refl _, ?_, ?_, ?_⟩
        · show offset < offset + Text.byteLength a + Text.byteLength b + Text.byteLength a'
          omega
        · exact hK.widen (Nat.le_add_right _ _) (Nat.le_add_right _ _)
        · exact hF.widen (Nat.le_refl _) (by omega)

/-- One node ends before another starts. -/
def Precedes (d : Document) (a b : NodeId) : Prop :=
  ∃ m n, d.get? a = some m ∧ d.get? b = some n ∧ m.span.stop ≤ n.span.start

/-- Every span lies inside of the parent's, and siblings stand one behind
the other, in the order of the children. -/
structure Laminar (d : Document) : Prop where
  nonempty : ∀ id n, d.get? id = some n → n.span.start < n.span.stop
  inside : ∀ id n parent m, d.get? id = some n → n.parent = some parent → d.get? parent = some m →
    m.span.start ≤ n.span.start ∧ n.span.stop ≤ m.span.stop
  siblings : ∀ id, (d.children id).Pairwise d.Precedes
  tops : d.tops.Pairwise d.Precedes

/-- The tops of nested trees stand one behind the other. -/
theorem pairwise_of_nested {parent : Option NodeId} {base low high : Nat}
    (h : F.Lies d.nodes.toList parent base) (hn : F.Nested low high) :
    (F.roots base).Pairwise d.Precedes ∧
      ∀ id ∈ F.roots base, ∃ n, d.get? id = some n ∧ low ≤ n.span.start ∧ n.span.stop ≤ high := by
  induction F generalizing base low with
  | nil => exact ⟨.nil, by simp [Forest.roots]⟩
  | node top below next _ ihn =>
    obtain ⟨hlow, hne, hbelow, hnext⟩ := hn
    obtain ⟨hpairs, hbounds⟩ := ihn h.behind hnext
    have htop := get?_of_lies h
    refine ⟨List.pairwise_cons.mpr ⟨fun id hid => ?_, hpairs⟩, ?_⟩
    · obtain ⟨n, hn, hstart, -⟩ := hbounds id hid
      exact ⟨_, n, htop, hn, hstart⟩
    · intro id hid
      rcases List.mem_cons.mp hid with rfl | hid
      · exact ⟨_, htop, hlow, hnext.le⟩
      · obtain ⟨n, hn, hstart, hstop⟩ := hbounds id hid
        exact ⟨n, hn, by omega, hstop⟩

/-- Each node of a document is the top of a tree that lies where the node
stands. -/
theorem Holds.exists_tree (h : d.Holds es F) {id : NodeId} {n : Node} (hn : d.get? id = some n) :
    ∃ top below parent, Forest.At top below F id ∧
      (Forest.node top below .nil).Lies d.nodes.toList parent id ∧
      n = ⟨top.content, parent, (below.roots (id + 1)).toArray, top.span, top.position⟩ := by
  have hlt : id < F.size := by
    rw [← size_of_layout h.nodes]
    exact (Array.getElem?_eq_some_iff.mp hn).1
  obtain ⟨top, below, hat⟩ := Forest.exists_at hlt
  obtain ⟨parent, hlies⟩ := h.lies.tree hat
  rw [Nat.zero_add] at hlies
  have heq := get?_of_lies hlies
  rw [hn, Option.some.injEq] at heq
  exact ⟨top, below, parent, hat, hlies, heq⟩

theorem Holds.laminar (h : d.Holds es F) {high : Nat} (hn : F.Nested 0 high) : d.Laminar where
  nonempty id n hid := by
    obtain ⟨top, below, parent, hat, -, rfl⟩ := h.exists_tree hid
    exact (hn.tree hat).1
  inside id n parent m hid hparent hm := by
    obtain ⟨top, below, grandparent, hat, hlies, rfl⟩ := h.exists_tree hm
    have hsize : id < 0 + F.size := by
      rw [Nat.zero_add, ← size_of_layout h.nodes]
      exact (Array.getElem?_eq_some_iff.mp hid).1
    have hp : d.parent? id = some parent := by rw [parent?, hid, Option.bind_some, hparent]
    -- The node is among its parent's children, which are nested in the parent.
    have hmem : id ∈ d.children parent := by
      rcases mem_children_of_lies h.lies (Nat.zero_le id) hsize with ⟨hnone, -⟩ | ⟨q, hq, hmem⟩
      · rw [hp] at hnone
        cases hnone
      · rw [hp, Option.some.injEq] at hq
        rwa [hq]
    rw [children_of_lies hlies] at hmem
    obtain ⟨n', hn', hstart, hstop⟩ := (pairwise_of_nested hlies.inside (hn.tree hat).2).2 id hmem
    rw [hid, Option.some.injEq] at hn'
    subst hn'
    exact ⟨hstart, hstop⟩
  siblings id := by
    cases hid : d.get? id with
    | none =>
      rw [children, hid]
      exact .nil
    | some n =>
      obtain ⟨top, below, parent, hat, hlies, -⟩ := h.exists_tree hid
      rw [children_of_lies hlies]
      exact (pairwise_of_nested hlies.inside (hn.tree hat).2).1
  tops := by
    rw [tops_of_layout h.nodes]
    exact (pairwise_of_nested h.lies hn).1

/-! ## Excerpts -/

/-- A stretch of the text, which is the span of `p`, writes the tree of `p`
and `K`; that of an element begins with a bracket. -/
def Excerpts (source : List Char) (offset : Nat) (text : List Char) (p : Placed)
    (K : Forest Placed) : Prop :=
  ∃ before inner after es, text = before ++ inner ++ after ∧
    p.span = ⟨offset + Text.byteLength before, offset + Text.byteLength (before ++ inner)⟩ ∧
    Spelled (offset + Text.byteLength before) inner es ∧ Reads source es (.node p K .nil) ∧
    (p.content.kind = .element → ∃ rest, inner = '<' :: rest)

theorem Excerpts.behind {offset : Nat} {a : List Char}
    (h : Excerpts source (offset + Text.byteLength a) text p K) :
    Excerpts source offset (a ++ text) p K := by
  obtain ⟨before, inner, after, es, rfl, hspan, hs, hreads, hkind⟩ := h
  have hstart : offset + Text.byteLength a + Text.byteLength before =
      offset + Text.byteLength (a ++ before) := by rw [Text.byteLength_append, Nat.add_assoc]
  have hstop : offset + Text.byteLength a + Text.byteLength (before ++ inner) =
      offset + Text.byteLength (a ++ before ++ inner) := by
    rw [List.append_assoc, Text.byteLength_append a, Nat.add_assoc]
  rw [hstart] at hs
  rw [hstart, hstop] at hspan
  exact ⟨a ++ before, inner, after, es, by simp, hspan, hs, hreads, hkind⟩

theorem Excerpts.before {offset : Nat} (h : Excerpts source offset text p K) (b : List Char) :
    Excerpts source offset (text ++ b) p K := by
  obtain ⟨before, inner, after, es, rfl, hspan, hs, hreads, hkind⟩ := h
  exact ⟨before, inner, after ++ b, es, by simp, hspan, hs, hreads, hkind⟩

/-- A text that writes one tree. -/
theorem Excerpts.whole {offset : Nat} (hs : Spelled offset text es)
    (hreads : Reads source es (.node p K .nil))
    (hspan : p.span = ⟨offset, offset + Text.byteLength text⟩)
    (hkind : p.content.kind = .element → ∃ rest, text = '<' :: rest) :
    Excerpts source offset text p K :=
  ⟨[], text, [], es, by simp, hspan, hs, hreads, hkind⟩

theorem isText_of_leaf_element {e : Markup.Event} {c : Content} (h : Leaf e (some c))
    (hc : c.kind = .element) : e.isText = false := by
  cases h with
  | text => cases hc
  | _ => rfl

theorem Spelled.single {offset : Nat} {a : List Char} {e : Markup.Event} (ha : Spells a e) :
    Spelled offset a [⟨e, offset, offset + Text.byteLength a⟩] := by
  have h : Spelled offset (a ++ []) [⟨e, offset, offset + Text.byteLength a⟩] :=
    .cons ha (fun _ => .inl rfl) (.nil _)
  rwa [List.append_nil] at h

/-- The text from a start tag to its end tag. -/
theorem Excerpts.element {offset : Nat} {a b a' content : List Char} {inner : List Located}
    {e e' : Markup.Event} {c : Content} (ha : Spells a e) (he : e = .startTag content)
    (hc : Builder.element content = .ok c) (hb : Spelled (offset + Text.byteLength a) b inner)
    (hK : Reads source inner K) (ha' : Spells a' e') (he' : e' = .endTag (tagName content)) :
    Excerpts source offset (a ++ (b ++ a'))
      ⟨c, ⟨offset, offset + Text.byteLength a + Text.byteLength b + Text.byteLength a'⟩,
        Text.Position.ofOffset source offset⟩ K := by
  subst he he'
  obtain ⟨r, rfl⟩ := ha'.markup rfl
  obtain ⟨q, rfl⟩ := ha.markup rfl
  have hs : Spelled offset _ _ :=
    .cons ha (fun ht => by cases ht) (hb.append (Spelled.single ha') (.inr ⟨r, rfl⟩))
  refine Excerpts.whole hs (.element rfl hc hK rfl .nil) ?_ fun _ => ⟨_, rfl⟩
  simp only [Text.byteLength_append, Nat.add_assoc]

/-- **Every tree that a text writes has an excerpt of the text.** -/
theorem excerpts_of_reads (h : Reads source es F) {offset i : Nat} (hs : Spelled offset text es)
    (hat : Forest.At p K F i) : Excerpts source offset text p K := by
  induction h generalizing offset text i with
  | nil => cases hat
  | skip _ _ ih =>
    cases hs with
    | cons _ _ hs => exact (ih hs hat).behind
  | leaf he _ ih =>
    cases hs with
    | @cons _ a text _ _ ha _ hs =>
      cases hat with
      | first next =>
        have hkind := fun hkind => ha.markup (isText_of_leaf_element he hkind)
        exact (Excerpts.whole (Spelled.single ha) (.leaf he .nil) rfl hkind).before text
      | inside hat => cases hat
      | behind hat => exact (ih hs hat).behind
  | element he hc hK he' _ ihK ihF =>
    cases hs with
    | @cons _ a _ _ _ ha _ hs =>
      obtain ⟨b, rest, rfl, hinner, hrest⟩ := hs.split
      cases hrest with
      | @cons _ a' rest _ _ ha' _ hrest =>
        cases hat with
        | first next =>
          have helement := (Excerpts.element ha he hc hinner hK ha' he').before rest
          simpa using helement
        | inside hat => exact ((ihK hinner hat).before (a' ++ rest)).behind
        | behind hat => exact (ihF hrest hat).behind.behind.behind

/-- Events that stand somewhere else write the same contents. -/
theorem Reads.relocate (h : Reads source es F) {f : Located → Located}
    (hf : ∀ e, (f e).event = e.event) (source' : List Char) :
    ∃ F', Reads source' (es.map f) F' ∧ F'.map Placed.content = F.map Placed.content := by
  induction h with
  | nil => exact ⟨.nil, .nil, rfl⟩
  | skip he _ ih =>
    obtain ⟨F', hF', hmap⟩ := ih
    exact ⟨F', .skip ((hf _).symm ▸ he) hF', hmap⟩
  | leaf he _ ih =>
    obtain ⟨F', hF', hmap⟩ := ih
    exact ⟨_, .leaf ((hf _).symm ▸ he) hF', by rw [Forest.map, Forest.map, hmap]; rfl⟩
  | element he hc _ he' _ ihK ihF =>
    obtain ⟨K', hK', hmapK⟩ := ihK
    obtain ⟨F', hF', hmapF⟩ := ihF
    have hreads := Reads.element ((hf _).trans he) hc hK' ((hf _).trans he') hF'
    exact ⟨_, by simpa using hreads, by rw [Forest.map, Forest.map, hmapK, hmapF]⟩

/-! ## Copies -/

/-- The nodes of `c` are, one by one, the nodes `ids` of `d`: what they are is
the same, and their children are the same nodes in the same order. -/
structure Copies (c d : Document) (ids : List NodeId) : Prop where
  size : c.size = ids.length
  nodes : ∀ i id, ids[i]? = some id → ∃ m n, c.get? i = some m ∧ d.get? id = some n ∧
    m.content = n.content ∧ m.children.toList.map (ids[·]?) = n.children.toList.map some

theorem descendants_of_tree {parent : Option NodeId} {id : Nat}
    (h : (Forest.node p K .nil).Lies d.nodes.toList parent id) :
    d.descendants id = List.range' id (K.size + 1) := by
  have hall := descendants_of_lies h
  rw [Forest.roots, Forest.roots, List.flatMap_cons, List.flatMap_nil, List.append_nil] at hall
  rw [hall]
  rfl

theorem getElem?_descendants {parent : Option NodeId} {id i : Nat}
    (h : (Forest.node p K .nil).Lies d.nodes.toList parent id) (hi : i < K.size + 1) :
    (d.descendants id)[i]? = some (id + i) := by
  rw [descendants_of_tree h, List.getElem?_range' hi, Nat.one_mul]

/-- A document of one tree that has the contents of a tree elsewhere copies
that tree. -/
theorem copies_of_holds {c : Document} {G : Forest Placed} {parent : Option NodeId} {id : Nat}
    (hc : c.Holds es G) (h : (Forest.node p K .nil).Lies d.nodes.toList parent id)
    (hmap : G.map Placed.content = (Forest.node p K .nil).map Placed.content) :
    c.Copies d (d.descendants id) := by
  have hlen : (d.descendants id).length = K.size + 1 := by
    rw [descendants_of_tree h, List.length_range']
  have hsize : c.size = K.size + 1 := by
    rw [size_of_layout hc.nodes, ← Forest.size_map Placed.content G, hmap, Forest.size_map]
    rfl
  refine ⟨hsize.trans hlen.symm, fun i id' hid => ?_⟩
  have hi : i < K.size + 1 := hlen ▸ (List.getElem?_eq_some_iff.mp hid).1
  rw [getElem?_descendants h hi, Option.some.injEq] at hid
  subst hid
  have hinside : i < (Forest.node p K .nil).size := hi
  obtain ⟨top, below, hat⟩ := Forest.exists_at hinside
  obtain ⟨top', below', hat', htop, hbelow⟩ := hat.map_eq hmap
  obtain ⟨q, hl⟩ := h.tree hat
  obtain ⟨q', hl'⟩ := hc.lies.tree hat'
  rw [Nat.zero_add] at hl'
  have hroots := Forest.roots_of_map hbelow (i + 1)
  have hchildren : c.children i = below.roots (i + 1) := by rw [children_of_lies hl', hroots]
  refine ⟨_, _, get?_of_lies hl', get?_of_lies hl, htop, ?_⟩
  -- The children are numbered by their places in either tree, from its own top on.
  have hshift : below.roots (id + i + 1) = (below.roots (i + 1)).map (· + id) := by
    rw [← Forest.roots_add]
    congr 1
    omega
  show (below'.roots (i + 1)).map _ = (below.roots (id + i + 1)).map some
  rw [hroots, hshift, List.map_map]
  refine List.map_congr_left fun x hx => ?_
  have hx' : x < c.size := (lt_of_mem_children (hchildren ▸ hx)).2
  rw [getElem?_descendants h (hsize ▸ hx'), Nat.add_comm]
  rfl

/-- The excerpt of an element is a document of its own. -/
theorem Excerpts.exists_parse (h : Excerpts source 0 source p K) (hkind : p.content.kind = .element) :
    ∃ inner, Text.sliceBytes source p.span.start p.span.stop = some inner ∧
      ∃ c es G, parse inner = .ok c ∧ c.Holds es G ∧ c.root.val = 0 ∧ c.tops = [0] ∧
        G.map Placed.content = (Forest.node p K .nil).map Placed.content := by
  obtain ⟨before, inner, after, es, hsource, hspan, hinner, hreads, hbegin⟩ := h
  rw [Nat.zero_add, Nat.zero_add] at hspan
  rw [Nat.zero_add] at hinner
  have hslice : Text.sliceBytes source p.span.start p.span.stop = some inner := by
    rw [hspan, hsource, Text.sliceBytes_append]
  -- Moved to the front, the events of the excerpt write the same contents.
  have hshift : ∀ e, (Located.shift (Text.byteLength before) e).event = e.event := fun _ => rfl
  obtain ⟨G, hG, hmap⟩ := Reads.relocate hreads hshift inner
  have hscan : scan inner = (es.map (Located.shift (Text.byteLength before)), none) := by
    obtain ⟨rest, rfl⟩ := hbegin hkind
    exact run_of_spelled (Spelled.shift hinner) (replayAll_of_reads hG [])
  obtain ⟨c, hparse, hc, hroot, htops⟩ := exists_parse_of_element hscan hG hmap hkind
  exact ⟨inner, hslice, c, _, G, hparse, hc, hroot, htops, hmap⟩

/-- **The text of an element is a document** that copies the element and what
is below it, and the spans of a document are nested as its nodes are. -/
theorem parse_outerMarkup (unmarked : source.head? ≠ some '\ufeff') (parsed : parse source = .ok d) :
    d.Laminar ∧ ∀ id n, d.get? id = some n → n.isElement = true →
      ∃ c, parse (d.outerMarkup n).toList = .ok c ∧ c.tops = [0] ∧ c.root.val = 0 ∧
        c.Copies d (d.descendants id) := by
  obtain ⟨rfl, es, F, h⟩ := holds_of_parse parsed
  have hs := h.spelled unmarked
  refine ⟨h.laminar (nested_of_reads h.reads hs), fun id n hid hel => ?_⟩
  obtain ⟨p, K, parent, hat, hlies, rfl⟩ := h.exists_tree hid
  have hkind : p.content.kind = .element := by
    cases hc : p.content with
    | element name attributes => rfl
    | _ => simp [Node.isElement, hc] at hel
  obtain ⟨inner, hslice, c, _, G, hparse, hc, hroot, htops, hmap⟩ :=
    (excerpts_of_reads h.reads hs hat).exists_parse hkind
  refine ⟨c, ?_, htops, hroot, copies_of_holds hc hlies hmap⟩
  rw [outerMarkup, hslice, Option.getD_some, String.toList_ofList, hparse]

/-- An element behind a character of two bytes. -/
def groupText : List Char :=
  "<!--\u00b5--> <svg> t <g id='&lt;'><rect/>u</g ><g/></svg>".toList

theorem parse_outerMarkup_group : ∃ d n, parse groupText = .ok d ∧ d.get? 3 = some n ∧
    d.outerMarkup n = "<g id='&lt;'><rect/>u</g >" ∧ n.isElement = true ∧ d.Laminar ∧
    ∃ c, parse (d.outerMarkup n).toList = .ok c ∧ c.tops = [0] ∧ c.root.val = 0 ∧
      c.Copies d (d.descendants 3) := by
  obtain ⟨d, n, hd, hn, hmarkup, hel⟩ : ∃ d n, parse groupText = .ok d ∧ d.get? 3 = some n ∧
      d.outerMarkup n = "<g id='&lt;'><rect/>u</g >" ∧ n.isElement = true :=
    ⟨_, _, rfl, rfl, rfl, rfl⟩
  obtain ⟨hlaminar, hcopy⟩ := parse_outerMarkup (by decide) hd
  exact ⟨d, n, hd, hn, hmarkup, hel, hlaminar, hcopy 3 n hn hel⟩

end Document

end VectorLint
