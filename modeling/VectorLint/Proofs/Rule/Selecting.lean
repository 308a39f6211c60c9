/-
What the rules that data configures have in common. They find nodes by the
texts of selectors, so what is said of a text is said of the nodes that it
matches, among all nodes of a document (`select_eq_filter`); and they report
errors and are done (`Rule.Reports`).
-/
import Mathlib.Data.List.Sort
import VectorLint.Proofs.Rule.Data

namespace VectorLint

/-- The rule reports these errors on a document and nothing else, wherever the
document comes from. -/
def Rule.Reports (rule : Rule) (d : Document) (errors : List (Message × Option NodeRef)) : Prop :=
  ∀ context, rule.check d context =
    .recordAll (errors.map fun (m, node) => .diagnostic .error m node) (.finish [])

theorem Rule.reports_ofErrors (errors : Document → List (Message × Option NodeRef)) (d : Document) :
    (ofErrors errors).Reports d (errors d) := fun _ => rfl

/-- Whether an error is tied to the node of a number. -/
def isAt (id : NodeId) (e : Message × Option NodeRef) : Bool :=
  e.2.any fun r => r.id.val = id

namespace Document

variable {source : List Char} {d : Document} {id : NodeId} {text : String} {s : Selector}

/-- Whether the selector that a text writes matches a node. -/
def matchesText (d : Document) (text : String) (id : NodeId) : Bool :=
  (Selector.parse text).toOption.any (·.matches d id)

/-- How many nodes the selector that a text writes matches. -/
def countMatches (d : Document) (text : String) : Nat :=
  (List.range d.size).countP (d.matchesText text)

/-- A selection is a filter on the numbers of all nodes. -/
theorem select_eq_filter (parsed : parse source = .ok d) (s : Selector) :
    d.select s = (List.range d.size).filter (s.matches d) := by
  refine (pairwise_select parsed s).eq_of_mem_iff (List.pairwise_lt_range.filter _) fun id => ?_
  rw [mem_select_iff parsed, List.mem_filter, List.mem_range]
  exact (and_iff_right_of_imp fun hmatch =>
    lt_of_mem_select ((mem_select_iff parsed).mpr hmatch)).symm

theorem matchesText_eq (h : Selector.parse text = .ok s) : d.matchesText text id = s.matches d id := by
  rw [matchesText, h]
  rfl

theorem select_eq_filter_text (parsed : parse source = .ok d) (h : Selector.parse text = .ok s) :
    d.select s = (List.range d.size).filter (d.matchesText text) := by
  rw [select_eq_filter parsed]
  exact List.filter_congr fun id _ => (matchesText_eq h).symm

theorem length_select (parsed : parse source = .ok d) (h : Selector.parse text = .ok s) :
    (d.select s).length = d.countMatches text := by
  rw [select_eq_filter_text parsed h, countMatches, List.countP_eq_length_filter]

theorem isElement_of_matchesText (h : d.matchesText text id = true) : d.isElement id = true := by
  obtain ⟨s, -, hs⟩ := (Option.any_eq_true _ _).mp h
  obtain ⟨chain, -, hchain⟩ := List.any_eq_true.mp hs
  exact Chain.isElement_of_matches hchain

theorem lt_of_isElement (h : d.isElement id = true) : id < d.size := by
  obtain ⟨n, hn, -⟩ := isElement_iff.mp h
  exact (Array.getElem?_eq_some_iff.mp hn).1

theorem lt_of_matchesText (h : d.matchesText text id = true) : id < d.size :=
  lt_of_isElement (isElement_of_matchesText h)

theorem countMatches_pos_iff : 0 < d.countMatches text ↔ ∃ id, d.matchesText text id = true := by
  rw [countMatches, List.countP_pos_iff]
  constructor
  · rintro ⟨id, -, hid⟩
    exact ⟨id, hid⟩
  · rintro ⟨id, hid⟩
    exact ⟨id, List.mem_range.mpr (lt_of_matchesText hid), hid⟩

theorem parse_star : Selector.parse "*" = .ok ⟨"*", [.single ⟨none, none, [], []⟩]⟩ := by
  decide +kernel

/-- The star stands for all elements. -/
theorem matchesText_star : d.matchesText "*" id = d.isElement id := by
  rw [matchesText_eq parse_star, isElement]
  cases hn : d.get? id <;>
    simp [Selector.matches, Chain.matches, Compound.matches, hn]

end Document

theorem isAt_ref? {d : Document} {id other : NodeId} (m : Message) (h : other < d.size) :
    isAt id (m, d.ref? other) = decide (other = id) := by
  obtain ⟨r, hr⟩ := Document.exists_ref? h
  obtain ⟨-, hid, -⟩ := Document.of_ref?_eq_some hr
  rw [isAt, hr, Option.any_some, hid]

theorem Selector.source_of_parse {text : String} {s : Selector} (h : parse text = .ok s) :
    s.source = text := by
  unfold parse at h
  split at h <;> cases h
  rfl

end VectorLint
