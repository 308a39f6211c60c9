/-
Tests behind a compound. A compound and a test directly behind it are one
compound (`exists_compound_of_append`), which asks for both of them, except
that an id takes the place of an id before it (`matches_concat`).

`select_append_simple`: what the two select together is what both select,
unless they ask for different ids; then it is what they select with the
earlier id left out.
-/
import VectorLint.Document.Parse
import VectorLint.Proofs.Selector.Lists

namespace VectorLint

/-- What a compound goes on asking for when a test stands behind it. -/
def Compound.before (c : Compound) : Selector.Simple → Compound
  | .id _ => { c with id := none }
  | .inClass _ | .tested _ => c

namespace Selector

variable {s : String} {x : Simple} {c first both : Compound}

/-- The selector that is one compound. -/
def lone (source : String) (c : Compound) : Selector := ⟨source, [.single c]⟩

/-! ## Texts -/

theorem SimplesText.concat {s a : List Char} {xs : List Simple} (hs : SimplesText s xs)
    (h : SimpleText a x) : SimplesText (s ++ a) (xs ++ [x]) := by
  induction hs with
  | nil => simpa using SimplesText.cons h .nil
  | cons hx _ ih =>
    rw [List.append_assoc]
    exact .cons hx ih

theorem compoundText_simple {a : List Char} (h : SimpleText a x) :
    CompoundText a (compound none [x]) := by
  have hne : [] ++ (a ++ []) ≠ ([] : List Char) := by cases h <;> simp
  simpa using CompoundText.mk .absent (.cons h .nil) hne

/-- A text is one chain if it has no comma and reads as the chain. -/
theorem parse_single_iff {chain : Chain} :
    parse s = .ok ⟨s, [chain]⟩ ↔ ',' ∉ s.toList ∧ ChainText s.toList chain := by
  rw [parse_eq_ok_iff]
  constructor
  · intro h
    have hcomma : ',' ∉ s.toList := by
      intro hmem
      obtain ⟨part, rest, hs, hpart⟩ := List.eq_append_cons_of_mem hmem
      have hlength := h.length_eq
      rw [hs, List.splitOnP_append_cons_of_forall_mem (cut_eq_false hpart) ',' (by decide)] at hlength
      have hrest := List.length_pos_of_ne_nil (List.splitOnP_ne_nil (· = ',') rest)
      simp only [List.length_cons, List.length_nil] at hlength
      omega
    rw [List.splitOnP_eq_singleton (cut_eq_false hcomma)] at h
    exact ⟨hcomma, (List.forall₂_cons.mp h).1⟩
  · rintro ⟨hcomma, h⟩
    rw [List.splitOnP_eq_singleton (cut_eq_false hcomma)]
    exact .cons h .nil

/-- A test directly behind a compound is the last of its tests; behind a blank
it would be a compound of its own. -/
theorem exists_compound_of_append {c s : List Char} (hc : ChainText c (.single first))
    (hs : SimpleText s x) (hcs : ChainText (c ++ s) (.single both)) :
    ∃ tag simples, first = compound tag simples ∧ both = compound tag (simples ++ [x]) := by
  cases hc with
  | @mk v t w _ hv ht hw =>
    cases ht with
    | single ht =>
      have hread := readChain_of_chainText hcs
      by_cases hnil : w = []
      · subst hnil
        cases ht with
        | @mk a t tag simples htag hsimples hne =>
          have hlonger : CompoundText (a ++ (t ++ s)) (compound tag (simples ++ [x])) :=
            .mk htag (hsimples.concat hs) (by simp_all)
          have hchain := ChainText.mk hv (.single hlonger) (List.forall_mem_nil _)
          have hsame := readChain_of_chainText hchain
          simp only [List.append_nil, List.append_assoc] at hread hsame
          rw [hsame] at hread
          cases hread
          exact ⟨tag, simples, rfl, rfl⟩
      · have hlinks := LinksText.join (.single ht) (.descendant hw hnil) (compoundText_simple hs)
        have hchain := ChainText.mk hv hlinks (List.forall_mem_nil _)
        have hother := readChain_of_chainText hchain
        simp only [List.append_nil, List.append_assoc] at hread hother
        rw [hother] at hread
        cases hread

/-! ## Matches -/

theorem matches_concat (tag : Option String) (simples : List Simple) (x : Simple) (n : Node) :
    (compound tag (simples ++ [x])).matches n =
      (((compound tag simples).before x).matches n && (compound none [x]).matches n) := by
  rw [Bool.eq_iff_iff]
  cases x <;>
    simp [Compound.matches, Compound.before, compound, Simple.id?, Simple.class?, Simple.test?,
      List.filterMap_cons] <;>
    tauto

/-- Different ids are not found on one node. -/
theorem matches_of_ids_ne {name other : String} (hid : c.id = some other) (hne : other ≠ name)
    (n : Node) : (c.matches n && (compound none [.id name]).matches n) = false := by
  rw [Bool.eq_false_iff]
  intro h
  simp only [Compound.matches, compound, Simple.id?, List.filterMap_cons, List.filterMap_nil,
    List.getLast?_singleton, hid, Option.all_some, Bool.and_eq_true, decide_eq_true_eq] at h
  obtain ⟨⟨⟨⟨-, hother⟩, -⟩, -⟩, ⟨⟨-, hname⟩, -⟩, -⟩ := h
  rw [hother, Option.some.injEq] at hname
  exact hne hname

/-- An id that is asked for again is not lost. -/
theorem matches_before_of_agrees
    (h : ∀ other name, c.id = some other → x = .id name → other = name) (n : Node) :
    ((c.before x).matches n && (compound none [x]).matches n) =
      (c.matches n && (compound none [x]).matches n) := by
  cases x with
  | inClass name | tested test => rfl
  | id name =>
    cases hid : c.id with
    | none => rw [Compound.before, ← hid]
    | some other =>
      obtain rfl := h other name hid rfl
      rw [Bool.eq_iff_iff]
      simp [Compound.matches, Compound.before, compound, Simple.id?, hid]
      tauto

/-! ## Selections -/

theorem select_lone (d : Document) (s : String) (c : Compound) :
    d.select (lone s c) = d.elements.filter fun i => (d.get? i).any c.matches := by
  refine List.filter_congr fun i _ => ?_
  simp [Selector.matches, lone, Chain.matches]

/-- What satisfies a compound, of what another selects. -/
theorem filter_select_lone (d : Document) (s : String) (a b : Compound) :
    ((d.select (lone s a)).filter fun i => (d.get? i).any b.matches) =
      d.elements.filter fun i => (d.get? i).any fun n => b.matches n && a.matches n := by
  rw [select_lone, List.filter_filter]
  refine List.filter_congr fun i _ => ?_
  cases d.get? i <;> rfl

/-- What two compounds both select. -/
theorem filter_mem_select_lone (d : Document) (s t : String) (a b : Compound) :
    (d.select (lone s a)).filter (· ∈ d.select (lone t b)) =
      d.elements.filter fun i => (d.get? i).any fun n => b.matches n && a.matches n := by
  rw [← filter_select_lone d s]
  refine List.filter_congr fun i hi => ?_
  have hmem := (List.mem_filter.mp hi).1
  simp [select_lone, hmem]

/-- **A compound asks for all of its tests**, except that of several ids only
the last is asked for. With a test directly behind it a compound selects, of
what the test selects alone, what it selects itself; but if both ask for an
id, and not for the same, what satisfies the rest of the compound, though no
node has both ids. -/
theorem select_append_simple {s t : String} (ht : SimpleText t.toList x)
    (hs : parse s = .ok (lone s first)) (hst : parse (s ++ t) = .ok (lone (s ++ t) both)) :
    ∃ alone, parse t = .ok (lone t alone) ∧ ∀ d : Document,
      ((∀ other name, first.id = some other → x = .id name → other = name) →
        d.select (lone (s ++ t) both) =
          (d.select (lone t alone)).filter (· ∈ d.select (lone s first))) ∧
      ∀ other name, first.id = some other → x = .id name → other ≠ name →
        (d.select (lone t alone)).filter (· ∈ d.select (lone s first)) = [] ∧
        d.select (lone (s ++ t) both) =
          (d.select (lone t alone)).filter fun i =>
            (d.get? i).any { first with id := none }.matches := by
  obtain ⟨-, hchain⟩ := parse_single_iff.mp hs
  obtain ⟨hcomma, hlonger⟩ := parse_single_iff.mp hst
  rw [String.toList_append] at hcomma hlonger
  obtain ⟨tag, simples, rfl, rfl⟩ := exists_compound_of_append hchain ht hlonger
  have halone : ChainText t.toList (.single (compound none [x])) := by
    simpa using ChainText.mk (List.forall_mem_nil _) (.single (compoundText_simple ht))
      (List.forall_mem_nil _)
  refine ⟨_, parse_single_iff.mpr ⟨fun h => hcomma (List.mem_append_right _ h), halone⟩, fun d => ⟨?_, ?_⟩⟩
  · intro hagree
    have hboth : (compound tag (simples ++ [x])).matches = _ := funext fun n =>
      (matches_concat tag simples x n).trans (matches_before_of_agrees hagree n)
    rw [filter_mem_select_lone, select_lone, hboth]
  · rintro other name hid rfl hne
    have hnone := funext (matches_of_ids_ne hid hne)
    have hboth := funext (matches_concat tag simples (.id name))
    constructor
    · rw [filter_mem_select_lone, hnone]
      simp
    · rw [filter_select_lone, select_lone, hboth]
      rfl

/-- One of the two elements `g` has the id and the class. -/
def twins : List Char :=
  "<svg><g id=\"a\" class=\"big\"/><g id=\"b\"/></svg>".toList

/-- A class behind an id narrows the selection; an id behind it moves it. -/
theorem select_append_twins : ∃ d, Document.parse twins = .ok d ∧
    d.select (lone "g#a" ⟨some "g", some "a", [], []⟩) = [1] ∧
    d.select (lone "g#a.big" ⟨some "g", some "a", ["big"], []⟩) = [1] ∧
    d.select (lone "g#a#b" ⟨some "g", some "b", [], []⟩) = [2] := by
  have hname {name : List Char} (h : name ≠ [] ∧ name.all isNameChar = true) : IsName name :=
    ⟨h.1, List.all_eq_true.mp h.2⟩
  have hbig : SimpleText ".big".toList (.inClass "big") := .inClass (hname (by decide))
  have hb : SimpleText "#b".toList (.id "b") := .id (hname (by decide))
  have ha : parse "g#a" = .ok (lone "g#a" ⟨some "g", some "a", [], []⟩) := by decide +kernel
  have habig : parse ("g#a" ++ ".big") =
      .ok (lone ("g#a" ++ ".big") ⟨some "g", some "a", ["big"], []⟩) := by decide +kernel
  have hab : parse ("g#a" ++ "#b") = .ok (lone ("g#a" ++ "#b") ⟨some "g", some "b", [], []⟩) := by
    decide +kernel
  obtain ⟨classTest, hclassTest, hclass⟩ := select_append_simple hbig ha habig
  obtain ⟨idTest, hidTest, hid⟩ := select_append_simple hb ha hab
  obtain rfl : classTest = ⟨none, none, ["big"], []⟩ := by
    have hread : parse ".big" = .ok (lone ".big" ⟨none, none, ["big"], []⟩) := by decide +kernel
    simpa [lone] using hclassTest.symm.trans hread
  obtain rfl : idTest = ⟨none, some "b", [], []⟩ := by
    have hread : parse "#b" = .ok (lone "#b" ⟨none, some "b", [], []⟩) := by decide +kernel
    simpa [lone] using hidTest.symm.trans hread
  obtain ⟨d, hd, hfirst, hmarked, hsecond⟩ : ∃ d, Document.parse twins = .ok d ∧
      d.select (lone "g#a" ⟨some "g", some "a", [], []⟩) = [1] ∧
      d.select (lone ".big" ⟨none, none, ["big"], []⟩) = [1] ∧
      (d.select (lone "#b" ⟨none, some "b", [], []⟩)).filter (fun i =>
        (d.get? i).any (Compound.matches ⟨some "g", none, [], []⟩)) = [2] :=
    ⟨_, rfl, by decide +kernel, by decide +kernel, by decide +kernel⟩
  refine ⟨d, hd, hfirst, ?_, ?_⟩
  · refine ((hclass d).1 (by simp)).trans ?_
    rw [hfirst, hmarked]
    rfl
  · exact ((hid d).2 "a" "b" rfl rfl (by decide)).2.trans hsecond

/-- The second id alone is looked for: what `#a#b` selects, `#a` does not. -/
theorem select_secondId :
    parse "#a" = .ok (lone "#a" ⟨none, some "a", [], []⟩) ∧
    parse "#b" = .ok (lone "#b" ⟨none, some "b", [], []⟩) ∧
    parse "#a#b" = .ok (lone "#a#b" ⟨none, some "b", [], []⟩) ∧
    ∃ d, Document.parse "<svg id=\"b\"/>".toList = .ok d ∧
      0 ∈ d.select (lone "#a#b" ⟨none, some "b", [], []⟩) ∧
      0 ∉ d.select (lone "#a" ⟨none, some "a", [], []⟩) :=
  ⟨by decide +kernel, by decide +kernel, by decide +kernel, _, rfl, by decide +kernel,
    by decide +kernel⟩

end Selector

end VectorLint
