/-
What the events of a text make of a document. `Reads` says which forest a
sequence of events writes, with no builder in it: a start tag, what is read
inside, its end tag; a node without children; or an event that leaves no
trace.

Taking events in grows the arena by the layout of their forest and leaves the
open elements as they were (`grown_of_reads`); outside of every element only
one element and comments fit, and then they are taken in (`exists_of_reads`).
-/
import VectorLint.Document.Parse
import VectorLint.Proofs.Document.Forest
import VectorLint.Proofs.Except

namespace VectorLint

def Content.kind : Content → Kind
  | .element .. => .element
  | .text _ => .text
  | .comment _ => .comment

/-- The numbers of the tops that are elements. -/
def Forest.elementRoots : Forest Placed → (base : Nat) → List Nat
  | nil, _ => []
  | node top below next, base =>
    if top.content.kind = .element then base :: next.elementRoots (base + 1 + below.size)
    else next.elementRoots (base + 1 + below.size)

namespace Document

/-- What an event that neither starts nor ends an element leaves: a node
without children, or nothing. -/
inductive Leaf : Markup.Event → Option Content → Prop
  | empty {content : List Char} {c : Content} (h : Builder.element content = .ok c) :
      Leaf (.emptyTag content) (some c)
  | blank {raw text : List Char} (h : Markup.resolve raw = .ok text) (ht : Text.trim text = []) :
      Leaf (.text raw) none
  | text {raw text : List Char} (h : Markup.resolve raw = .ok text) (ht : Text.trim text ≠ []) :
      Leaf (.text raw) (some (.text (String.ofList (Text.trim text))))
  | cdata (content : List Char) : Leaf (.cdata content) (some (.text (String.ofList content)))
  | comment (content : List Char) : Leaf (.comment content) (some (.comment (String.ofList content)))
  | aside : Leaf .aside none

/-- The forest that events of the text `source` write. -/
inductive Reads (source : List Char) : List Markup.Located → Forest Placed → Prop
  | nil : Reads source [] .nil
  | skip {e : Markup.Located} {es : List Markup.Located} {F : Forest Placed}
      (he : Leaf e.event none) (hes : Reads source es F) : Reads source (e :: es) F
  | leaf {e : Markup.Located} {es : List Markup.Located} {F : Forest Placed} {c : Content}
      (he : Leaf e.event (some c)) (hes : Reads source es F) :
      Reads source (e :: es)
        (.node ⟨c, ⟨e.start, e.stop⟩, Text.Position.ofOffset source e.start⟩ .nil F)
  | element {e e' : Markup.Located} {inner es : List Markup.Located} {K F : Forest Placed}
      {content : List Char} {c : Content} (he : e.event = .startTag content)
      (hc : Builder.element content = .ok c) (hinner : Reads source inner K)
      (he' : e'.event = .endTag (Markup.tagName content)) (hes : Reads source es F) :
      Reads source (e :: (inner ++ e' :: es))
        (.node ⟨c, ⟨e.start, e'.stop⟩, Text.Position.ofOffset source e.start⟩ K F)

/-! ## Linking -/

theorem modify_append_left {α : Type} {l : List α} {i : Nat} (h : i < l.length) (m : List α)
    (f : α → α) : (l ++ m).modify i f = l.modify i f ++ m := by
  induction l generalizing i with
  | nil => simp at h
  | cons a l ih =>
    cases i with
    | zero => rfl
    | succ i => simp [ih (Nat.lt_of_succ_lt_succ h)]

theorem modify_append_cons {α : Type} (l : List α) (a : α) (m : List α) (f : α → α) :
    (l ++ a :: m).modify l.length f = l ++ f a :: m := by
  induction l with
  | nil => rfl
  | cons b l ih => simp [ih]

/-- The nodes with further children of `parent`. -/
def adopt (parent : Option NodeId) (ids : List NodeId) (nodes : List Node) : List Node :=
  match parent with
  | none => nodes
  | some p => nodes.modify p fun n => { n with children := n.children ++ ids.toArray }

theorem adopt_nil (parent : Option NodeId) (nodes : List Node) : adopt parent [] nodes = nodes := by
  cases parent with
  | none => rfl
  | some p =>
    simp only [adopt, Array.append_empty]
    exact List.modify_id p nodes

theorem adopt_adopt (parent : Option NodeId) (a b : List NodeId) (nodes : List Node) :
    adopt parent b (adopt parent a nodes) = adopt parent (a ++ b) nodes := by
  cases parent with
  | none => rfl
  | some p => simp [adopt, List.modify_modify_eq, Function.comp_def]

@[simp] theorem length_adopt (parent : Option NodeId) (ids : List NodeId) (nodes : List Node) :
    (adopt parent ids nodes).length = nodes.length := by
  cases parent <;> simp [adopt]

theorem adopt_append {parent : Option NodeId} {nodes : List Node} (h : ∀ p ∈ parent, p < nodes.length)
    (ids : List NodeId) (more : List Node) :
    adopt parent ids (nodes ++ more) = adopt parent ids nodes ++ more := by
  cases parent with
  | none => rfl
  | some p => exact modify_append_left (h p rfl) more _

/-- The last node takes in children. -/
theorem adopt_length_append (nodes : List Node) (n : Node) (ids : List NodeId) :
    adopt (some nodes.length) ids (nodes ++ [n]) =
      nodes ++ [{ n with children := n.children ++ ids.toArray }] :=
  modify_append_cons nodes n [] _

theorem toList_push (a : Arena) (content : Content) (span : Span) (position : Text.Position)
    (parent : Option (Fin a.size)) :
    (a.push content span position parent).nodes.toList =
      adopt (parent.map Fin.val) [a.size] a.nodes.toList ++
        [⟨content, parent.map Fin.val, #[], span, position⟩] := by
  cases parent <;> simp [Arena.push, Arena.link, adopt]

namespace Builder

theorem parent_map_val (b : Builder) : b.parent.map Fin.val = b.opened.head? := by
  unfold parent
  split <;> simp [*]

theorem parent_eq_none {b : Builder} : b.parent = none ↔ b.opened = [] := by
  rw [← List.head?_eq_none_iff, ← parent_map_val, Option.map_eq_none_iff]

theorem head?_opened_lt (b : Builder) : ∀ p ∈ b.opened.head?, p < b.arena.nodes.toList.length := by
  intro p hp
  rw [Array.length_toList]
  exact b.opened_lt p (List.mem_of_mem_head? hp)

/-! ## One node -/

/-- `b'` is `b` with a forest taken in below the innermost open element. -/
structure Grown (b b' : Builder) (F : Forest Placed) : Prop where
  nodes : b'.arena.nodes.toList =
    adopt b.opened.head? (F.roots b.arena.size) b.arena.nodes.toList ++
      F.layout b.opened.head? b.arena.size
  opened : b'.opened = b.opened
  root : b'.root.toList =
    b.root.toList ++ if b.opened = [] then F.elementRoots b.arena.size else []

/-- Outside of every element a forest has no text for a top, and no second
root. -/
def Fits (b : Builder) (F : Forest Placed) : Prop :=
  b.opened = [] → (∀ p ∈ F.tops, p.content.kind ≠ .text) ∧
    b.root.toList.length + (F.elementRoots b.arena.size).length ≤ 1

variable {b b₁ b' : Builder} {source : List Char} {c : Content} {span : Span}
  {position : Text.Position} {p : Placed} {K F : Forest Placed}

theorem Grown.size (h : Grown b b' F) : b'.arena.size = b.arena.size + F.size := by
  have hlen := congrArg List.length h.nodes
  simpa [Arena.size] using hlen

theorem Grown.nil (b : Builder) : Grown b b .nil :=
  ⟨by simp [Forest.roots, Forest.layout, adopt_nil], rfl, by simp [Forest.elementRoots]⟩

/-- A first tree and then the trees behind it. -/
theorem Grown.node (h : Grown b b₁ (.node p K .nil)) (hF : Grown b₁ b' F) :
    Grown b b' (.node p K F) := by
  have hsize : b₁.arena.size = b.arena.size + 1 + K.size := by
    rw [h.size, Forest.size, Forest.size]
    omega
  refine ⟨?_, hF.opened.trans h.opened, ?_⟩
  · have hlt : ∀ q ∈ b.opened.head?,
        q < (adopt b.opened.head? [b.arena.size] b.arena.nodes.toList).length := by
      rw [length_adopt]
      exact b.head?_opened_lt
    rw [hF.nodes, h.opened, h.nodes, hsize]
    simp only [Forest.roots, Forest.layout, List.append_nil]
    rw [adopt_append hlt, adopt_adopt, List.append_assoc]
    rfl
  · rw [hF.root, h.root, h.opened, hsize]
    by_cases hb : b.opened = []
    · simp only [hb, if_true, Forest.elementRoots]
      split <;> simp
    · simp [hb]

theorem Fits.node_iff (h : Grown b b₁ (.node p K .nil)) (hp : b.Fits (.node p K .nil)) :
    b₁.Fits F ↔ b.Fits (.node p K F) := by
  have hsize : b₁.arena.size = b.arena.size + 1 + K.size := by
    rw [h.size, Forest.size, Forest.size]
    omega
  unfold Fits
  rw [h.opened, h.root, hsize]
  refine forall_congr' fun hb => ?_
  obtain ⟨htext, -⟩ := hp hb
  simp only [Forest.tops, List.mem_singleton, forall_eq] at htext
  simp only [hb, if_true, Forest.elementRoots, Forest.tops, List.mem_cons, forall_eq_or_imp, htext,
    ne_eq, not_false_eq_true, true_and]
  split <;> simp [Nat.add_assoc, Nat.add_comm 1]

/-- What fits begins with a tree that fits, whatever is below its top. -/
theorem Fits.head {q : Placed} {G : Forest Placed} (h : b.Fits (.node p K F))
    (hq : q.content = p.content) : b.Fits (.node q G .nil) := by
  intro hb
  obtain ⟨htext, hroot⟩ := h hb
  simp only [Forest.tops, List.mem_cons, forall_eq_or_imp] at htext
  refine ⟨by simpa [Forest.tops, hq] using htext.1, ?_⟩
  simp only [Forest.elementRoots, hq] at hroot ⊢
  by_cases hp : p.content.kind = .element
  · simp only [hp, if_true, List.length_cons, List.length_nil] at hroot ⊢
    omega
  · simp only [hp, if_false, List.length_nil] at hroot ⊢
    omega

theorem rootAfter_of_fits (h : b.Fits (.node ⟨c, span, position⟩ .nil .nil)) :
    ∃ root, b.rootAfter c = .ok root := by
  unfold rootAfter
  split
  · rename_i name _ hp
    obtain ⟨-, hroot⟩ := h (parent_eq_none.mp hp)
    split
    · simp_all [Forest.elementRoots, Content.kind]
    · exact ⟨_, rfl⟩
  · rename_i hp
    obtain ⟨htext, -⟩ := h (parent_eq_none.mp hp)
    simp [Forest.tops, Content.kind] at htext
  · exact ⟨_, rfl⟩

theorem fits_of_rootAfter {root : Option NodeId} (h : b.rootAfter c = .ok root) (span : Span)
    (position : Text.Position) :
    b.Fits (.node ⟨c, span, position⟩ .nil .nil) ∧
      root.toList = b.root.toList ++
        if b.opened = [] then (Forest.node ⟨c, span, position⟩ .nil .nil).elementRoots b.arena.size
        else [] := by
  unfold rootAfter at h
  split at h
  · rename_i hp
    split at h
    · simp at h
    · rename_i hroot
      cases h
      simp [Fits, Forest.tops, Forest.elementRoots, Content.kind, hroot, parent_eq_none.mp hp]
  · simp at h
  · rename_i c _ _ hel htext
    cases h
    by_cases hb : b.opened = []
    · have hp := parent_eq_none.mpr hb
      cases c with
      | element name attributes => exact absurd rfl (hel name attributes hp)
      | text value => exact absurd rfl (htext value hp)
      | comment value =>
        have hroot : b.root.toList.length ≤ 1 := by cases b.root <;> simp
        simp [Fits, Forest.tops, Forest.elementRoots, Content.kind, hroot]
    · simp [Fits, hb]

theorem add_of_fits (h : b.Fits (.node ⟨c, span, position⟩ .nil .nil)) :
    ∃ b', b.add c span position = .ok b' := by
  obtain ⟨root, hroot⟩ := rootAfter_of_fits h
  unfold add
  split
  · simp_all
  · exact ⟨_, rfl⟩

theorem grown_of_add (h : b.add c span position = .ok b') :
    b.Fits (.node ⟨c, span, position⟩ .nil .nil) ∧
      Grown b b' (.node ⟨c, span, position⟩ .nil .nil) := by
  unfold add at h
  split at h
  · simp at h
  · rename_i root hroot
    cases h
    obtain ⟨hfits, hr⟩ := fits_of_rootAfter hroot span position
    refine ⟨hfits, ?_, rfl, hr⟩
    rw [toList_push, parent_map_val]
    rfl

/-- An element that stays open is a node without children for now. -/
theorem grown_of_openElement {start : Nat} (h : b.openElement c start position = .ok b') :
    b.Fits (.node ⟨c, ⟨start, start⟩, position⟩ .nil .nil) ∧
      b'.opened = b.arena.size :: b.opened ∧
      ∃ b₁, Grown b b₁ (.node ⟨c, ⟨start, start⟩, position⟩ .nil .nil) ∧
        b'.arena = b₁.arena ∧ b'.root = b₁.root := by
  unfold openElement at h
  split at h
  · simp at h
  · rename_i root hroot
    cases h
    obtain ⟨hfits, -⟩ := fits_of_rootAfter hroot ⟨start, start⟩ position
    obtain ⟨b₁, hb₁⟩ := add_of_fits hfits
    refine ⟨hfits, rfl, b₁, (grown_of_add hb₁).2, ?_⟩
    unfold add at hb₁
    split at hb₁
    · simp at hb₁
    · rename_i root' hroot'
      cases hb₁
      rw [hroot, Except.ok.injEq] at hroot'
      exact ⟨rfl, hroot'⟩

theorem openElement_of_fits {start : Nat}
    (h : b.Fits (.node ⟨c, ⟨start, start⟩, position⟩ .nil .nil)) :
    ∃ b', b.openElement c start position = .ok b' := by
  obtain ⟨root, hroot⟩ := rootAfter_of_fits h
  unfold openElement
  split
  · simp_all
  · exact ⟨_, rfl⟩

theorem closeElement_of_opened {id : NodeId} {opened : List NodeId} (h : b.opened = id :: opened)
    (stop : Nat) :
    (b.closeElement stop).arena.nodes.toList =
        b.arena.nodes.toList.modify id (fun n => { n with span := { n.span with stop } }) ∧
      (b.closeElement stop).opened = opened ∧ (b.closeElement stop).root = b.root := by
  unfold closeElement
  split
  · simp_all
  · rename_i id' opened' h'
    rw [h, List.cons.injEq] at h'
    obtain ⟨rfl, rfl⟩ := h'
    exact ⟨by simp [Arena.close], rfl, rfl⟩

/-- An element that was opened, with what was taken in since, when it is
closed. -/
theorem Grown.element {b₂ b₃ : Builder} {start : Nat}
    (h : Grown b b₁ (.node ⟨c, ⟨start, start⟩, position⟩ .nil .nil)) (harena : b₂.arena = b₁.arena)
    (hroot : b₂.root = b₁.root) (hopened : b₂.opened = b.arena.size :: b.opened)
    (hK : Grown b₂ b₃ K) (stop : Nat) :
    Grown b (b₃.closeElement stop) (.node ⟨c, ⟨start, stop⟩, position⟩ K .nil) := by
  obtain ⟨hnodes, hop, hr⟩ := closeElement_of_opened (hK.opened.trans hopened) stop
  have hsize : b₂.arena.size = b.arena.size + 1 := by
    rw [harena, h.size]
    rfl
  have hlen : b.arena.size = (adopt b.opened.head? [b.arena.size] b.arena.nodes.toList).length := by
    rw [length_adopt]
    rfl
  refine ⟨?_, hop, ?_⟩
  · rw [hnodes, hK.nodes, hopened, hsize, harena, h.nodes]
    simp only [List.head?_cons, Forest.roots, Forest.layout, List.append_nil]
    generalize adopt b.opened.head? [b.arena.size] b.arena.nodes.toList = before at hlen ⊢
    rw [hlen, adopt_length_append, List.append_assoc, List.singleton_append, modify_append_cons,
      Array.empty_append]
  · have hne : b₂.opened ≠ [] := by
      rw [hopened]
      exact List.cons_ne_nil _ _
    rw [hr, hK.root, if_neg hne, List.append_nil, hroot, h.root]
    rfl

/-! ## Sequences of events -/

theorem read_skip {e : Markup.Located} (h : Leaf e.event none) : read source b e = .ok b := by
  unfold read
  generalize e.event = event at h
  cases h with
  | blank hraw ht => simp only [hraw, ht]
  | aside => rfl

theorem read_leaf {e : Markup.Located} (h : Leaf e.event (some c)) :
    read source b e = b.add c ⟨e.start, e.stop⟩ (Text.Position.ofOffset source e.start) := by
  unfold read
  generalize e.event = event at h
  cases h with
  | empty hc => simp only [hc]
  | text hraw ht => simp only [hraw]
  | cdata => rfl
  | comment => rfl

theorem read_startTag {e : Markup.Located} {content : List Char} (he : e.event = .startTag content)
    (hc : element content = .ok c) :
    read source b e = b.openElement c e.start (Text.Position.ofOffset source e.start) := by
  simp only [read, he, hc]

theorem read_endTag {e : Markup.Located} {name : List Char} (he : e.event = .endTag name) :
    read source b e = .ok (b.closeElement e.stop) := by
  simp only [read, he]

/-- **What is taken in is the forest that the events write.** -/
theorem grown_of_reads {es : List Markup.Located} (h : Reads source es F) :
    es.foldlM (read source) b = .ok b' → b.Fits F ∧ Grown b b' F := by
  induction h generalizing b b' with
  | nil =>
    intro hfold
    cases hfold
    have hroot : b.root.toList.length ≤ 1 := by cases b.root <;> simp
    exact ⟨fun _ => ⟨by simp [Forest.tops], by simp [Forest.elementRoots, hroot]⟩, .nil b⟩
  | skip he _ ih =>
    intro hfold
    rw [List.foldlM_cons, read_skip he] at hfold
    exact ih hfold
  | leaf he _ ih =>
    intro hfold
    rw [List.foldlM_cons, read_leaf he] at hfold
    obtain ⟨b₁, hadd, hrest⟩ := bind_eq_ok.mp hfold
    obtain ⟨hfits, hgrown⟩ := grown_of_add hadd
    obtain ⟨hfits', hgrown'⟩ := ih hrest
    exact ⟨(Fits.node_iff hgrown hfits).mp hfits', hgrown.node hgrown'⟩
  | @element e e' inner es K F content c he hc _ he' _ ihK ihF =>
    intro hfold
    rw [List.foldlM_cons, read_startTag he hc] at hfold
    obtain ⟨b₂, hopen, hfold⟩ := bind_eq_ok.mp hfold
    rw [List.foldlM_append] at hfold
    obtain ⟨b₃, hinner, hfold⟩ := bind_eq_ok.mp hfold
    rw [List.foldlM_cons, read_endTag he'] at hfold
    obtain ⟨hfits, hopened, b₁, hgrown, harena, hroot⟩ := grown_of_openElement hopen
    have hclosed := hgrown.element harena hroot hopened (ihK hinner).2 e'.stop
    obtain ⟨hfits', hgrown'⟩ := ihF hfold
    exact ⟨(Fits.node_iff hclosed (hfits.head rfl)).mp hfits', hclosed.node hgrown'⟩

/-- Events that write a forest are taken in wherever the forest fits. -/
theorem exists_of_reads {es : List Markup.Located} (h : Reads source es F) :
    b.Fits F → ∃ b', es.foldlM (read source) b = .ok b' := by
  induction h generalizing b with
  | nil => exact fun _ => ⟨b, rfl⟩
  | skip he _ ih =>
    intro hfits
    rw [List.foldlM_cons, read_skip he]
    exact ih hfits
  | leaf he _ ih =>
    intro hfits
    obtain ⟨b₁, hadd⟩ := add_of_fits (hfits.head rfl)
    obtain ⟨b', hrest⟩ := ih ((Fits.node_iff (grown_of_add hadd).2 (hfits.head rfl)).mpr hfits)
    exact ⟨b', by rw [List.foldlM_cons, read_leaf he, hadd]; exact hrest⟩
  | @element e e' inner es K F content c he hc _ he' _ ihK ihF =>
    intro hfits
    have hfits' : b.Fits (.node ⟨c, ⟨e.start, e.start⟩, Text.Position.ofOffset source e.start⟩ .nil
      .nil) := hfits.head rfl
    obtain ⟨b₂, hopen⟩ := openElement_of_fits hfits'
    obtain ⟨-, hopened, b₁, hgrown, harena, hroot⟩ := grown_of_openElement hopen
    -- Inside of the element everything fits.
    obtain ⟨b₃, hinner⟩ := ihK (b := b₂) fun h => by simp [hopened] at h
    have hclosed := hgrown.element harena hroot hopened (grown_of_reads ‹_› hinner).2 e'.stop
    obtain ⟨b', hrest⟩ := ihF ((Fits.node_iff hclosed (hfits.head rfl)).mpr hfits)
    refine ⟨b', ?_⟩
    rw [List.foldlM_cons, read_startTag he hc, hopen]
    refine bind_eq_ok.mpr ⟨b₂, rfl, ?_⟩
    rw [List.foldlM_append, hinner]
    refine bind_eq_ok.mpr ⟨b₃, rfl, ?_⟩
    rw [List.foldlM_cons, read_endTag he']
    exact hrest

end Builder

end Document

end VectorLint
