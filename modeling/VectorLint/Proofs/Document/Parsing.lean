/-
From the events of a text to its document. The end tags of a text that is
scanned without a fault close what is open, so if nothing is left open at the
end, the events write a forest (`Unwinds`).

A document that is read holds the forest of its events (`holds_of_parse`),
and events that write a root and comments around it are read
(`exists_parse_of_reads`).
-/
import VectorLint.Proofs.Document.Reading
import VectorLint.Proofs.Markup.Pieces

namespace VectorLint

namespace Markup

/-- The attributes of a tag, the references of a text can be read. -/
def Event.Decodes : Event → Prop
  | startTag content | emptyTag content => ∃ as, attributes content = .ok as
  | text raw => ∃ t, resolve raw = .ok t
  | _ => True

/-- The number of open elements after an event. -/
def Event.depthAfter (depth : Nat) : Event → Nat
  | startTag _ => depth + 1
  | endTag _ => depth - 1
  | _ => depth

/-- The number of elements that are open at the end. -/
def finalDepth (depth : Nat) (es : List Event) : Nat :=
  es.foldl Event.depthAfter depth

theorem length_replay {e : Event} {opened opened' : List (List Char)}
    (h : e.replay opened = some opened') : opened'.length = e.depthAfter opened.length := by
  cases e with
  | endTag name =>
    cases opened with
    | nil => simp [Event.replay] at h
    | cons expected opened =>
      simp only [Event.replay, Option.ite_none_right_eq_some, Option.some.injEq] at h
      obtain ⟨-, rfl⟩ := h
      rfl
  | _ => cases h; rfl

theorem replayAll_cons {e : Located} {es : List Located} {opened opened' : List (List Char)} :
    replayAll opened (e :: es) = some opened' ↔
      ∃ o, e.event.replay opened = some o ∧ replayAll o es = some opened' := by
  simp only [replayAll, List.foldlM_cons, Option.bind_eq_bind, Option.bind_eq_some_iff]

theorem length_replayAll {es : List Located} {opened opened' : List (List Char)}
    (h : replayAll opened es = some opened') :
    opened'.length = finalDepth opened.length (es.map (·.event)) := by
  induction es generalizing opened with
  | nil => cases h; rfl
  | cons e es ih =>
    obtain ⟨o, ho, h⟩ := replayAll_cons.mp h
    rw [ih h, length_replay ho]
    rfl

theorem dropMark_of_head {text : List Char} (h : text.head? ≠ some '\ufeff') :
    dropMark text = text := by
  unfold dropMark
  split
  · exact absurd rfl h
  · rfl

end Markup

namespace Document

open Markup

variable {source : List Char} {es : List Located} {F : Forest Placed} {d : Document}

namespace Builder

variable {b b' : Builder}

theorem exists_element_iff {content : List Char} :
    (∃ c, element content = .ok c) ↔ ∃ as, attributes content = .ok as := by
  constructor
  · rintro ⟨c, hc⟩
    obtain ⟨as, has, -⟩ := bind_eq_ok.mp hc
    exact ⟨as, has⟩
  · rintro ⟨as, has⟩
    exact ⟨_, bind_eq_ok.mpr ⟨as, has, rfl⟩⟩

/-- What can be read is a start tag, an end tag or leaves at most a node. -/
theorem cases_of_decodes {e : Markup.Event} (h : e.Decodes) :
    (∃ content c, e = .startTag content ∧ element content = .ok c) ∨ (∃ name, e = .endTag name) ∨
      ∃ left, Leaf e left := by
  cases e with
  | startTag content =>
    obtain ⟨c, hc⟩ := exists_element_iff.mpr h
    exact .inl ⟨content, c, rfl, hc⟩
  | endTag name => exact .inr (.inl ⟨name, rfl⟩)
  | text raw =>
    obtain ⟨t, ht⟩ := h
    by_cases hblank : Text.trim t = []
    · exact .inr (.inr ⟨none, .blank ht hblank⟩)
    · exact .inr (.inr ⟨_, .text ht hblank⟩)
  | emptyTag content =>
    obtain ⟨c, hc⟩ := exists_element_iff.mpr h
    exact .inr (.inr ⟨some c, .empty hc⟩)
  | cdata content => exact .inr (.inr ⟨_, .cdata content⟩)
  | comment content => exact .inr (.inr ⟨_, .comment content⟩)
  | aside => exact .inr (.inr ⟨none, .aside⟩)

theorem decodes_of_read {e : Located} (h : read source b e = .ok b') : e.event.Decodes := by
  unfold read at h
  cases he : e.event with
  | startTag content | emptyTag content =>
    refine exists_element_iff.mp ?_
    cases hc : element content with
    | error fault => simp [he, hc] at h
    | ok c => exact ⟨c, rfl⟩
  | text raw =>
    show ∃ t, resolve raw = .ok t
    cases ht : resolve raw with
    | error fault => simp [he, ht] at h
    | ok t => exact ⟨t, rfl⟩
  | _ => trivial

theorem depthAfter_of_leaf {e : Markup.Event} {left : Option Content} (h : Leaf e left) (depth : Nat) :
    e.depthAfter depth = depth := by
  cases h <;> rfl

theorem replay_of_leaf {e : Markup.Event} {left : Option Content} (h : Leaf e left)
    (opened : List (List Char)) : e.replay opened = some opened := by
  cases h <;> rfl

theorem length_opened_closeElement (b : Builder) (stop : Nat) :
    (b.closeElement stop).opened.length = b.opened.length - 1 := by
  cases hb : b.opened with
  | nil =>
    unfold closeElement
    split <;> simp_all
  | cons id opened =>
    obtain ⟨-, hopened, -⟩ := closeElement_of_opened hb stop
    simp [hopened]

/-- As many elements are open as the events so far have left open. -/
theorem length_opened_of_read {e : Located} (h : read source b e = .ok b') :
    b'.opened.length = e.event.depthAfter b.opened.length := by
  rcases cases_of_decodes (decodes_of_read h) with ⟨content, c, he, hc⟩ | ⟨name, he⟩ | ⟨left, hleaf⟩
  · rw [read_startTag he hc] at h
    obtain ⟨-, hopened, -⟩ := grown_of_openElement h
    rw [hopened, he]
    rfl
  · rw [read_endTag he] at h
    cases h
    rw [length_opened_closeElement, he]
    rfl
  · rw [depthAfter_of_leaf hleaf]
    cases left with
    | none =>
      rw [read_skip hleaf] at h
      cases h
      rfl
    | some c =>
      rw [read_leaf hleaf] at h
      rw [(grown_of_add h).2.opened]

theorem length_opened_of_foldlM (h : es.foldlM (read source) b = .ok b') :
    (∀ e ∈ es, e.event.Decodes) ∧
      b'.opened.length = finalDepth b.opened.length (es.map (·.event)) := by
  induction es generalizing b with
  | nil => cases h; exact ⟨by simp, rfl⟩
  | cons e es ih =>
    rw [List.foldlM_cons] at h
    obtain ⟨b₁, hread, h⟩ := bind_eq_ok.mp h
    obtain ⟨hdec, hlen⟩ := ih h
    refine ⟨List.forall_mem_cons.mpr ⟨decodes_of_read hread, hdec⟩, ?_⟩
    rw [hlen, length_opened_of_read hread]
    rfl

theorem finish_eq_ok (h : b.finish source = .ok d) :
    b.opened = [] ∧ b.root = some d.root.val ∧ d.nodes = b.arena.nodes ∧ d.source = source := by
  unfold finish at h
  split at h
  · simp at h
  · simp at h
  · rename_i root hopened hroot
    cases h
    exact ⟨hopened, hroot, rfl, rfl⟩

theorem exists_finish {id : NodeId} (hopened : b.opened = []) (hroot : b.root = some id)
    (source : List Char) : ∃ d, b.finish source = .ok d := by
  unfold finish
  split
  · simp_all
  · simp_all
  · exact ⟨_, rfl⟩

end Builder

/-! ## End tags -/

/-- Events of which the end tags close the named elements, the first of them
innermost, and what they open themselves. -/
inductive Unwinds (source : List Char) : List (List Char) → List Located → Prop
  | done {es : List Located} {F : Forest Placed} (h : Reads source es F) : Unwinds source [] es
  | close {es rest : List Located} {F : Forest Placed} {e : Located} {name : List Char}
      {opened : List (List Char)} (h : Reads source es F) (he : e.event = .endTag name)
      (hrest : Unwinds source opened rest) : Unwinds source (name :: opened) (es ++ e :: rest)

/-- What can stand in front of all that writes a forest can stand in front
of events with further end tags. -/
theorem Unwinds.prepend {front : List Located} {opened : List (List Char)}
    (hfront : ∀ {es F}, Reads source es F → ∃ F', Reads source (front ++ es) F')
    (h : Unwinds source opened es) : Unwinds source opened (front ++ es) := by
  cases h with
  | done h =>
    obtain ⟨F', h'⟩ := hfront h
    exact .done h'
  | close h he hrest =>
    obtain ⟨F', h'⟩ := hfront h
    rw [← List.append_assoc]
    exact .close h' he hrest

theorem Unwinds.cons {e : Located} {opened opened' : List (List Char)} (hdec : e.event.Decodes)
    (hr : e.event.replay opened = some opened') (h : Unwinds source opened' es) :
    Unwinds source opened (e :: es) := by
  rcases Builder.cases_of_decodes hdec with ⟨content, c, he, hc⟩ | ⟨name, he⟩ | ⟨left, hleaf⟩
  · rw [he] at hr
    cases hr
    cases h with
    | @close inner rest K e' _ _ hinner he' hrest =>
      have hfront : ∀ {es F}, Reads source es F →
          ∃ F', Reads source ((e :: (inner ++ [e'])) ++ es) F' := fun h =>
        ⟨_, by simpa using Reads.element he hc hinner he' h⟩
      simpa using hrest.prepend hfront
  · rw [he] at hr
    cases opened with
    | nil => simp [Markup.Event.replay] at hr
    | cons expected opened =>
      simp only [Markup.Event.replay, Option.ite_none_right_eq_some, Option.some.injEq] at hr
      obtain ⟨rfl, rfl⟩ := hr
      exact .close .nil he h
  · rw [Builder.replay_of_leaf hleaf] at hr
    cases hr
    have hfront : ∀ {es F}, Reads source es F → ∃ F', Reads source ([e] ++ es) F' := fun h => by
      cases left with
      | none => exact ⟨_, .skip hleaf h⟩
      | some c => exact ⟨_, .leaf hleaf h⟩
    exact h.prepend hfront

theorem unwinds_of_replayAll {opened : List (List Char)} (hdec : ∀ e ∈ es, e.event.Decodes)
    (h : replayAll opened es = some []) : Unwinds source opened es := by
  induction es generalizing opened with
  | nil => cases h; exact .done .nil
  | cons e es ih =>
    obtain ⟨o, ho, h⟩ := replayAll_cons.mp h
    rw [List.forall_mem_cons] at hdec
    exact .cons hdec.1 ho (ih hdec.2 h)

/-- The events of a forest leave open what is open. -/
theorem replayAll_of_reads (h : Reads source es F) (opened : List (List Char)) :
    replayAll opened es = some opened := by
  induction h generalizing opened with
  | nil => rfl
  | skip he _ ih | leaf he _ ih =>
    exact replayAll_cons.mpr ⟨opened, Builder.replay_of_leaf he opened, ih opened⟩
  | element he _ _ he' _ ihK ihF =>
    refine replayAll_cons.mpr ⟨_, by rw [he]; rfl, ?_⟩
    rw [replayAll, List.foldlM_append]
    refine Option.bind_eq_some_iff.mpr ⟨_, ihK _, ?_⟩
    exact replayAll_cons.mpr ⟨opened, by rw [he']; exact if_pos rfl, ihF opened⟩

/-! ## Documents -/

theorem ofScan_eq_ok {failure : Option Failure} : ofScan source (es, failure) = .ok d ↔
    failure = none ∧ ∃ b, es.foldlM (Builder.read source) .empty = .ok b ∧ b.finish source = .ok d := by
  rw [ofScan, bind_eq_ok]
  cases failure with
  | none => simp
  | some failure => simp [throw, throwThe, MonadExceptOf.throw]

theorem parse_eq_ok : parse source = .ok d ↔ ∃ es b, scan source = (es, none) ∧
    es.foldlM (Builder.read source) .empty = .ok b ∧ b.finish source = .ok d := by
  unfold parse
  generalize scan source = scanned
  obtain ⟨es, failure⟩ := scanned
  rw [ofScan_eq_ok]
  simp

/-- The document holds the forest that the events of its text write: a root
element, and comments. -/
structure Holds (d : Document) (es : List Located) (F : Forest Placed) : Prop where
  scanned : scan d.source = (es, none)
  reads : Reads d.source es F
  nodes : d.nodes.toList = F.layout none 0
  root : F.elementRoots 0 = [d.root.val]

theorem Holds.spelled (h : d.Holds es F) (hhead : d.source.head? ≠ some '\ufeff') :
    Spelled 0 d.source es := by
  have hrun : (Scan.fresh 0 []).run d.source = (es, none) := by
    rw [← dropMark_of_head hhead]
    exact h.scanned
  exact (spelled_of_run hrun).1

theorem Holds.lies (h : d.Holds es F) : F.Lies d.nodes.toList none 0 :=
  h.nodes ▸ F.lies_layout none

/-- Of any events whose end tags name what they close, a document is laid out
as the forest that they write. -/
theorem layout_of_ofScan {failure : Option Failure} {opened : List (List Char)}
    (hreplay : replayAll [] es = some opened) (h : ofScan source (es, failure) = .ok d) :
    d.source = source ∧ ∃ F, Reads source es F ∧ d.nodes.toList = F.layout none 0 ∧
      F.elementRoots 0 = [d.root.val] := by
  obtain ⟨-, b, hfold, hfinish⟩ := ofScan_eq_ok.mp h
  obtain ⟨hopened, hroot, hnodes, hsource⟩ := Builder.finish_eq_ok hfinish
  obtain ⟨hdec, hdepth⟩ := Builder.length_opened_of_foldlM hfold
  have hclosed : opened = [] := by
    rw [← List.length_eq_zero_iff, length_replayAll hreplay]
    simpa [hopened, Builder.empty] using hdepth.symm
  subst hclosed
  cases (unwinds_of_replayAll hdec hreplay : Unwinds source [] es) with
  | @done _ F hreads =>
    obtain ⟨-, hgrown⟩ := Builder.grown_of_reads hreads hfold
    refine ⟨hsource, F, hreads, ?_, ?_⟩
    · rw [hnodes, hgrown.nodes]
      rfl
    · simpa [Builder.empty, hroot, Arena.empty, Arena.size] using hgrown.root.symm

theorem exists_replayAll_of_scan (h : scan source = (es, none)) :
    ∃ opened, replayAll [] es = some opened := by
  have hrun : (Scan.fresh 0 []).run (dropMark source) = (es, none) := h
  exact (spelled_of_run hrun).2

/-- **A document holds what its text writes.** -/
theorem holds_of_parse (h : parse source = .ok d) : d.source = source ∧ ∃ es F, d.Holds es F := by
  obtain ⟨es, b, hscan, hfold, hfinish⟩ := parse_eq_ok.mp h
  obtain ⟨opened, hreplay⟩ := exists_replayAll_of_scan hscan
  obtain ⟨rfl, F, hreads, hnodes, hroot⟩ :=
    layout_of_ofScan hreplay (ofScan_eq_ok.mpr ⟨rfl, b, hfold, hfinish⟩)
  exact ⟨rfl, es, F, hscan, hreads, hnodes, hroot⟩

/-- **A root element with comments around it is read.** -/
theorem exists_parse_of_reads (hscan : scan source = (es, none)) (h : Reads source es F)
    (htops : ∀ p ∈ F.tops, p.content.kind ≠ .text) (hroots : (F.elementRoots 0).length = 1) :
    ∃ d, parse source = .ok d ∧ d.source = source ∧ d.Holds es F := by
  have hfits : Builder.empty.Fits F := fun _ =>
    ⟨htops, by simpa [Builder.empty, Arena.empty, Arena.size] using Nat.le_of_eq hroots⟩
  obtain ⟨b, hfold⟩ := Builder.exists_of_reads h hfits
  obtain ⟨-, hgrown⟩ := Builder.grown_of_reads h hfold
  obtain ⟨id, hid⟩ := List.length_eq_one_iff.mp hroots
  have hroot : b.root = some id := by
    have := hgrown.root
    simp only [Builder.empty, Arena.empty, Arena.size] at this
    cases hb : b.root with
    | none => simp [hb, hid] at this
    | some id' => simpa [hb, hid] using this
  obtain ⟨d, hd⟩ := Builder.exists_finish hgrown.opened hroot source
  obtain ⟨-, hroot', hnodes, hsource⟩ := Builder.finish_eq_ok hd
  refine ⟨d, parse_eq_ok.mpr ⟨es, b, hscan, hfold, hd⟩, hsource, ?_⟩
  subst hsource
  refine ⟨hscan, h, ?_, ?_⟩
  · rw [hnodes, hgrown.nodes]
    rfl
  · rw [hid, ← Option.some_inj.mp (hroot.symm.trans hroot')]

/-- One element, and nothing around it. -/
theorem exists_parse_of_element {c : Content} {K : Forest Content}
    (hscan : scan source = (es, none)) (h : Reads source es F)
    (hmap : F.map Placed.content = .node c K .nil) (hc : c.kind = .element) :
    ∃ d, parse source = .ok d ∧ d.Holds es F ∧ d.root.val = 0 ∧ d.tops = [0] := by
  obtain ⟨p, L, rfl⟩ : ∃ p L, F = .node p L .nil := by
    cases F with
    | nil => cases hmap
    | node p L N =>
      cases N with
      | nil => exact ⟨p, L, rfl⟩
      | node q M N => simp [Forest.map] at hmap
  have hp : p.content.kind = .element := by
    rw [Forest.map, Forest.node.injEq] at hmap
    rw [hmap.1, hc]
  obtain ⟨d, hd, -, hholds⟩ := exists_parse_of_reads hscan h (by simp [Forest.tops, hp])
    (by simp [Forest.elementRoots, hp])
  refine ⟨d, hd, hholds, ?_, tops_of_layout hholds.nodes⟩
  have hroot := hholds.root
  simp only [Forest.elementRoots, hp, if_true, List.cons.injEq, and_true] at hroot
  exact hroot.symm

end Document

end VectorLint
