/-
Which events make a document. Read without a fault, they decode, open one
element outside of every element and close all that they open, and leave no
text outside (`WellFormed`).

Whatever reads the events off a text, those make a document and no others; and
if end tags are checked against what they close, a walk through the nodes of
the document, tree by tree, meets its events without those that leave no trace
(`ofScan_iff_wellFormed`).
-/
import VectorLint.Proofs.Document.Parsing
import VectorLint.Proofs.Text.Trim

namespace VectorLint

/-! ## Events by depth -/

namespace Markup

namespace Event

def opensElement : Event → Bool
  | startTag _ | emptyTag _ => true
  | _ => false

/-- Character data, or a text that is not blank with its references
resolved. -/
def IsStray : Event → Prop
  | cdata _ => True
  | text raw => ∃ t, resolve raw = .ok t ∧ ¬ Text.Blank t
  | _ => False

end Event

/-- Each event with the number of elements that are open where it stands. -/
def depths (depth : Nat) : List Event → List (Nat × Event)
  | [] => []
  | e :: es => (depth, e) :: depths (e.depthAfter depth) es

/-- How often an element is opened outside of every element. -/
def countRoots (depth : Nat) (es : List Event) : Nat :=
  (depths depth es).countP fun (depth, e) => depth = 0 && e.opensElement

/-- Nothing is at fault with the events of a document. -/
structure WellFormed (es : List Event) : Prop where
  decodes : ∀ e ∈ es, e.Decodes
  oneRoot : countRoots 0 es = 1
  noStray : ∀ e, (0, e) ∈ depths 0 es → ¬ e.IsStray
  closed : finalDepth 0 es = 0

end Markup

namespace Document

open Markup

namespace Builder

theorem kind_element {content : List Char} {c : Content} (h : element content = .ok c) :
    c.kind = .element := by
  obtain ⟨as, -, hc⟩ := bind_eq_ok.mp h
  cases hc
  rfl

/-- A leaf outside of every element is stray exactly if it is a text. -/
theorem Leaf.isStray_iff {e : Markup.Event} {left : Option Content} (h : Leaf e left) :
    e.IsStray ↔ left.map Content.kind = some .text := by
  cases h with
  | empty hc => simp [Markup.Event.IsStray, kind_element hc]
  | blank ht hblank => simp [Markup.Event.IsStray, ht, Text.trim_eq_nil_iff.mp hblank]
  | text ht hblank => simpa [Markup.Event.IsStray, ht, Content.kind, Text.trim_eq_nil_iff] using hblank
  | _ => simp [Markup.Event.IsStray, Content.kind]

theorem Leaf.opensElement_iff {e : Markup.Event} {left : Option Content} (h : Leaf e left) :
    e.opensElement = true ↔ left.map Content.kind = some .element := by
  cases h with
  | empty hc => simp [Markup.Event.opensElement, kind_element hc]
  | _ => simp [Markup.Event.opensElement, Content.kind]

/-! ## Taking events in -/

variable {source : List Char} {b b' : Builder}

/-- The number of roots that an event adds. -/
def rootsAdded (b : Builder) (e : Markup.Event) : Nat :=
  if b.opened.length = 0 && e.opensElement then 1 else 0

theorem length_root_le (b : Builder) : b.root.toList.length ≤ 1 := by
  cases b.root <;> simp

/-- The event takes in a node, which is stray or an element as the event
says. -/
structure Adds (source : List Char) (b : Builder) (e : Located) (p : Placed) : Prop where
  stray : e.event.IsStray ↔ p.content.kind = .text
  opens : e.event.opensElement = true ↔ p.content.kind = .element
  exists_read : b.Fits (.node p .nil .nil) → ∃ b', read source b e = .ok b'
  of_read : ∀ b', read source b e = .ok b' → b.Fits (.node p .nil .nil) ∧
    ∃ b₁, Grown b b₁ (.node p .nil .nil) ∧ b'.root = b₁.root

structure AddsNothing (source : List Char) (b : Builder) (e : Located) : Prop where
  stray : ¬ e.event.IsStray
  opens : e.event.opensElement = false
  exists_read : ∃ b', read source b e = .ok b' ∧ b'.root = b.root

theorem root_closeElement (b : Builder) (stop : Nat) : (b.closeElement stop).root = b.root := by
  unfold closeElement
  split <;> rfl

/-- What can be read adds one node or none. -/
theorem adds_or_not {e : Located} (h : e.event.Decodes) (source : List Char) (b : Builder) :
    (∃ p, Adds source b e p) ∨ AddsNothing source b e := by
  rcases cases_of_decodes h with ⟨content, c, he, hc⟩ | ⟨name, he⟩ | ⟨left, hleaf⟩
  · refine .inl ⟨⟨c, ⟨e.start, e.start⟩, Text.Position.ofOffset source e.start⟩, ?_, ?_, ?_, ?_⟩
    · simp [he, Markup.Event.IsStray, kind_element hc]
    · simp [he, Markup.Event.opensElement, kind_element hc]
    · rw [read_startTag he hc]
      exact openElement_of_fits
    · intro b' hread
      rw [read_startTag he hc] at hread
      obtain ⟨hfits, -, b₁, hgrown, -, hroot⟩ := grown_of_openElement hread
      exact ⟨hfits, b₁, hgrown, hroot⟩
  · exact .inr ⟨by simp [he, Markup.Event.IsStray], by simp [he, Markup.Event.opensElement],
      _, read_endTag he, b.root_closeElement e.stop⟩
  · have hstray := Leaf.isStray_iff hleaf
    have hopens := Leaf.opensElement_iff hleaf
    cases left with
    | none =>
      simp only [Option.map_none, reduceCtorEq, iff_false, Bool.not_eq_true] at hstray hopens
      exact .inr ⟨hstray, hopens, b, read_skip hleaf, rfl⟩
    | some c =>
      simp only [Option.map_some, Option.some.injEq] at hstray hopens
      refine .inl ⟨⟨c, ⟨e.start, e.stop⟩, Text.Position.ofOffset source e.start⟩, hstray, hopens, ?_, ?_⟩
      · rw [read_leaf hleaf]
        exact add_of_fits
      · intro b' hread
        rw [read_leaf hleaf] at hread
        obtain ⟨hfits, hgrown⟩ := grown_of_add hread
        exact ⟨hfits, b', hgrown, rfl⟩

theorem Adds.rootsAdded_eq {e : Located} {p : Placed} (h : Adds source b e p)
    (hb : b.opened = []) :
    b.rootsAdded e.event = ((Forest.node p .nil .nil).elementRoots b.arena.size).length := by
  by_cases hel : p.content.kind = .element
  · simp [rootsAdded, hb, h.opens.mpr hel, Forest.elementRoots, hel]
  · have hopens : e.event.opensElement = false := by
      rw [← Bool.not_eq_true, h.opens]
      exact hel
    simp [rootsAdded, hopens, Forest.elementRoots, hel]

theorem rootsAdded_of_opened {e : Markup.Event} (hb : b.opened ≠ []) : b.rootsAdded e = 0 := by
  simp [rootsAdded, hb]

theorem Adds.fits_iff {e : Located} {p : Placed} (h : Adds source b e p) :
    b.Fits (.node p .nil .nil) ↔
      (b.opened = [] → ¬ e.event.IsStray) ∧ b.root.toList.length + b.rootsAdded e.event ≤ 1 := by
  by_cases hb : b.opened = []
  · rw [h.rootsAdded_eq hb, h.stray]
    simp [Fits, hb, Forest.tops]
  · simp [Fits, hb, rootsAdded_of_opened hb, b.length_root_le]

theorem exists_read_iff {e : Located} :
    (∃ b', read source b e = .ok b') ↔
      e.event.Decodes ∧ (b.opened = [] → ¬ e.event.IsStray) ∧
        b.root.toList.length + b.rootsAdded e.event ≤ 1 := by
  constructor
  · rintro ⟨b', hread⟩
    have hdec := decodes_of_read hread
    refine ⟨hdec, ?_⟩
    rcases adds_or_not hdec source b with ⟨p, h⟩ | h
    · exact h.fits_iff.mp (h.of_read b' hread).1
    · simp [h.stray, rootsAdded, h.opens, b.length_root_le]
  · rintro ⟨hdec, hfits⟩
    rcases adds_or_not hdec source b with ⟨p, h⟩ | h
    · exact h.exists_read (h.fits_iff.mpr hfits)
    · obtain ⟨b', hread, -⟩ := h.exists_read
      exact ⟨b', hread⟩

theorem length_root_of_read {e : Located} (hread : read source b e = .ok b') :
    b'.root.toList.length = b.root.toList.length + b.rootsAdded e.event := by
  rcases adds_or_not (decodes_of_read hread) source b with ⟨p, h⟩ | h
  · obtain ⟨-, b₁, hgrown, hroot⟩ := h.of_read b' hread
    rw [hroot, hgrown.root, List.length_append]
    by_cases hb : b.opened = []
    · rw [h.rootsAdded_eq hb, if_pos hb]
    · rw [rootsAdded_of_opened hb, if_neg hb, List.length_nil]
  · obtain ⟨b₁, hread₁, hroot⟩ := h.exists_read
    rw [hread, Except.ok.injEq] at hread₁
    rw [hread₁, hroot]
    simp [rootsAdded, h.opens]

theorem countRoots_cons (b : Builder) (e : Markup.Event) (es : List Markup.Event) :
    countRoots b.opened.length (e :: es) =
      b.rootsAdded e + countRoots (e.depthAfter b.opened.length) es := by
  simp only [countRoots, depths, List.countP_cons, rootsAdded]
  omega

theorem length_root_of_foldlM {es : List Located} (h : es.foldlM (read source) b = .ok b') :
    b'.root.toList.length =
      b.root.toList.length + countRoots b.opened.length (es.map (·.event)) := by
  induction es generalizing b with
  | nil => cases h; rfl
  | cons e es ih =>
    rw [List.foldlM_cons] at h
    obtain ⟨b₁, hread, h⟩ := bind_eq_ok.mp h
    rw [ih h, length_root_of_read hread, List.map_cons, countRoots_cons,
      length_opened_of_read hread, Nat.add_assoc]

/-- Events are taken in if they decode, if no text stands outside and if no
second root is opened. -/
theorem exists_foldlM_iff {es : List Located} :
    (∃ b', es.foldlM (read source) b = .ok b') ↔
      (∀ e ∈ es.map (·.event), e.Decodes) ∧
        (∀ e, (0, e) ∈ depths b.opened.length (es.map (·.event)) → ¬ e.IsStray) ∧
        b.root.toList.length + countRoots b.opened.length (es.map (·.event)) ≤ 1 := by
  induction es generalizing b with
  | nil => simp [depths, countRoots, b.length_root_le, pure, Except.pure]
  | cons e es ih =>
    have hcons : (∃ b', (e :: es).foldlM (read source) b = .ok b') ↔
        ∃ b₁, read source b e = .ok b₁ ∧ ∃ b', es.foldlM (read source) b₁ = .ok b' := by
      simp only [List.foldlM_cons, bind_eq_ok]
      exact exists_comm.trans (exists_congr fun b₁ => exists_and_left)
    rw [hcons, List.map_cons, countRoots_cons]
    simp only [depths, List.mem_cons, forall_eq_or_imp, Prod.mk.injEq]
    constructor
    · rintro ⟨b₁, hread, hrest⟩
      obtain ⟨hdec, hstray, -⟩ := exists_read_iff.mp ⟨b₁, hread⟩
      have hopened := length_opened_of_read hread
      have hroot := length_root_of_read hread
      rw [ih, hopened, hroot] at hrest
      refine ⟨⟨hdec, hrest.1⟩, ?_, by omega⟩
      rintro e' (⟨hzero, rfl⟩ | hmem)
      · exact hstray (List.length_eq_zero_iff.mp hzero.symm)
      · exact hrest.2.1 e' hmem
    · rintro ⟨⟨hdec, hdecs⟩, hstray, hroots⟩
      have hfirst : ∃ b₁, read source b e = .ok b₁ := exists_read_iff.mpr
        ⟨hdec, fun hb => hstray e.event (.inl ⟨by rw [hb]; rfl, rfl⟩), by omega⟩
      obtain ⟨b₁, hread⟩ := hfirst
      have hopened := length_opened_of_read hread
      have hroot := length_root_of_read hread
      refine ⟨b₁, hread, ih.mpr ⟨hdecs, ?_, by rw [hopened, hroot]; omega⟩⟩
      rw [hopened]
      exact fun e' hmem => hstray e' (.inr hmem)

end Builder

/-- **The events that make a document** are the well-formed ones. -/
theorem exists_ofScan_iff {source : List Char} {es : List Located} {failure : Option Failure} :
    (∃ d, ofScan source (es, failure) = .ok d) ↔ failure = none ∧ WellFormed (es.map (·.event)) := by
  constructor
  · rintro ⟨d, hd⟩
    obtain ⟨hnone, b, hfold, hfinish⟩ := ofScan_eq_ok.mp hd
    obtain ⟨hopened, hroot, -⟩ := Builder.finish_eq_ok hfinish
    obtain ⟨hdec, hstray, -⟩ := Builder.exists_foldlM_iff.mp ⟨b, hfold⟩
    have hone := Builder.length_root_of_foldlM hfold
    have hdepth := (Builder.length_opened_of_foldlM hfold).2
    rw [hroot] at hone
    rw [hopened] at hdepth
    refine ⟨hnone, hdec, ?_, hstray, hdepth.symm⟩
    simpa [Builder.empty] using hone.symm
  · rintro ⟨hnone, hwell⟩
    have htaken : ∃ b, es.foldlM (Builder.read source) .empty = .ok b :=
      Builder.exists_foldlM_iff.mpr
        ⟨hwell.decodes, hwell.noStray, by simpa [Builder.empty] using Nat.le_of_eq hwell.oneRoot⟩
    obtain ⟨b, hfold⟩ := htaken
    have hone : b.root.toList.length = 1 := by
      rw [Builder.length_root_of_foldlM hfold]
      simpa [Builder.empty] using hwell.oneRoot
    have hdepth : b.opened.length = 0 := by
      rw [(Builder.length_opened_of_foldlM hfold).2]
      exact hwell.closed
    obtain ⟨id, hid⟩ := List.length_eq_one_iff.mp hone
    obtain ⟨d, hd⟩ := Builder.exists_finish (List.length_eq_zero_iff.mp hdepth)
      (Option.toList_eq_singleton_iff.mp hid) source
    exact ⟨d, ofScan_eq_ok.mpr ⟨hnone, b, hfold, hd⟩⟩

end Document

/-! ## Walks -/

/-- What a walk through a tree meets. -/
inductive Mark
  | opening (name : String) (attributes : List (String × String))
  | text (value : String)
  | comment (value : String)
  | closing (name : String)
deriving DecidableEq, Repr

/-- A node, around what a walk meets below it. -/
def Content.marks (below : List Mark) : Content → List Mark
  | .element name attributes => .opening name attributes :: (below ++ [.closing name])
  | .text value => .text value :: below
  | .comment value => .comment value :: below

def Forest.walk : Forest Content → List Mark
  | nil => []
  | node top below next => top.marks below.walk ++ next.walk

namespace Markup

/-- The start of an element, with its attributes as far as they can be
read. -/
def opening (content : List Char) : List Mark :=
  match attributes content with
  | .ok as => [.opening (String.ofList (tagName content))
      (as.map fun a => (String.ofList a.name, String.ofList a.value))]
  | .error _ => []

/-- The traces of an event. An empty tag starts and ends an element; a text
is trimmed, and leaves no trace if it is blank. -/
def Event.marks : Event → List Mark
  | startTag content => opening content
  | emptyTag content => opening content ++ [.closing (String.ofList (tagName content))]
  | endTag name => [.closing (String.ofList name)]
  | text raw =>
    match resolve raw with
    | .ok t => if Text.Blank t then [] else [.text (String.ofList (Text.trim t))]
    | .error _ => []
  | cdata content => [.text (String.ofList content)]
  | comment content => [.comment (String.ofList content)]
  | aside => []

end Markup

namespace Document

open Markup

theorem opening_of_element {content : List Char} {c : Content}
    (h : Builder.element content = .ok c) :
    ∃ attributes, c = .element (String.ofList (tagName content)) attributes ∧
      opening content = [.opening (String.ofList (tagName content)) attributes] := by
  obtain ⟨as, has, hc⟩ := bind_eq_ok.mp h
  cases hc
  exact ⟨_, rfl, by rw [opening, has]⟩

theorem marks_of_leaf {e : Markup.Event} {left : Option Content} (h : Leaf e left) :
    e.marks = left.toList.flatMap (Content.marks []) := by
  cases h with
  | empty hc =>
    obtain ⟨attributes, rfl, hopening⟩ := opening_of_element hc
    simp [Markup.Event.marks, hopening, Content.marks]
  | blank ht hblank => simp [Markup.Event.marks, ht, Text.trim_eq_nil_iff.mp hblank]
  | text ht hblank =>
    simp [Markup.Event.marks, ht, mt Text.trim_eq_nil_iff.mpr hblank, Content.marks]
  | _ => rfl

theorem walk_of_reads {source : List Char} {es : List Located} {F : Forest Placed}
    (h : Reads source es F) : (F.map Placed.content).walk = es.flatMap (·.event.marks) := by
  induction h with
  | nil => rfl
  | skip he _ ih =>
    rw [List.flatMap_cons, marks_of_leaf he, ih]
    rfl
  | leaf he _ ih =>
    rw [List.flatMap_cons, marks_of_leaf he, ← ih]
    simp [Forest.map, Forest.walk]
  | element he hc _ he' _ ihK ihF =>
    obtain ⟨attributes, rfl, hopening⟩ := opening_of_element hc
    simp [Forest.map, Forest.walk, Content.marks, ihK, ihF, he, he', Markup.Event.marks, hopening]

/-- Events that came to an end are checked: an end tag names what it closes. -/
def Checked (scanned : List Located × Option Failure) : Prop :=
  scanned.2 = none → ∃ opened, replayAll [] scanned.1 = some opened

theorem checked_scan (source : List Char) : Checked (scan source) :=
  fun hnone => exists_replayAll_of_scan (Prod.ext rfl hnone)

/-- **Documents and their events.** Events make a document exactly if they
came to an end and are well-formed; and a walk through the trees of the
document meets what checked events leave. -/
theorem ofScan_iff_wellFormed (source : List Char) (scanned : List Located × Option Failure) :
    ((∃ d, ofScan source scanned = .ok d) ↔
      scanned.2 = none ∧ WellFormed (scanned.1.map (·.event))) ∧
    (Checked scanned → ∀ d, ofScan source scanned = .ok d →
      d.forest.walk = (scanned.1.map (·.event)).flatMap Markup.Event.marks) := by
  refine ⟨exists_ofScan_iff, fun hchecked d hd => ?_⟩
  obtain ⟨hnone, -⟩ := exists_ofScan_iff.mp ⟨d, hd⟩
  obtain ⟨opened, hreplay⟩ := hchecked hnone
  obtain ⟨-, F, hreads, hnodes, -⟩ := layout_of_ofScan hreplay hd
  rw [forest_of_layout hnodes, walk_of_reads hreads, List.flatMap_map]

/-- The texts that are documents, and what a walk through a document meets. -/
theorem document_iff_wellFormed (source : List Char) :
    ((∃ d, parse source = .ok d) ↔
      (scan source).2 = none ∧ WellFormed ((scan source).1.map (·.event))) ∧
    ∀ d, parse source = .ok d →
      d.forest.walk = ((scan source).1.map (·.event)).flatMap Markup.Event.marks := by
  obtain ⟨hdocuments, hwalks⟩ := ofScan_iff_wellFormed source (scan source)
  exact ⟨hdocuments, hwalks (checked_scan source)⟩

/-- A comment, character data, references and an empty tag. -/
theorem walk_mixedContent : ∃ d,
    parse "<!--top--> <a x='1&amp;2'> t&lt; <b/><![CDATA[ u ]]></a>".toList = .ok d ∧
      d.forest.walk = [.comment "top", .opening "a" [("x", "1&2")], .text "t<", .opening "b" [],
        .closing "b", .text " u ", .closing "a"] := by
  obtain ⟨d, hd⟩ : ∃ d,
      parse "<!--top--> <a x='1&amp;2'> t&lt; <b/><![CDATA[ u ]]></a>".toList = .ok d :=
    ⟨_, rfl⟩
  exact ⟨d, hd, ((document_iff_wellFormed _).2 d hd).trans (by decide)⟩

end Document

end VectorLint
