/-
How the options of `attr` are read. Members are taken in one after the other
(`Draft.Takes`), and what there is in the end is told by the options as a
whole: the attributes are the members that are not about the rule itself, in
order, and of the others each is found under its key (`reads_of_foldlM`,
`configures_of_readConfig`).
-/
import Mathlib.Data.List.Forall2
import Mathlib.Data.List.Induction
import VectorLint.Proofs.Rule.Merging
import VectorLint.Proofs.Rule.Selecting

namespace VectorLint.Attributes

variable {engine : PatternEngine} {members : List (String × Json.Value)} {draft next : Draft}
  {c : Config}

/-- Whether a key is about the rule itself, not an attribute. -/
def isReserved (key : String) : Bool :=
  "rule::".toList.isPrefixOf key.toList

/-- The members about attributes. -/
def listed (members : List (String × Json.Value)) : List (String × Json.Value) :=
  members.filter fun m => !isReserved m.1

/-- The attributes that the options list. -/
def listedNames (members : List (String × Json.Value)) : List String :=
  (listed members).map Prod.fst

/-- What is expected of a listed attribute. -/
def Expects (engine : PatternEngine) (m : String × Json.Value) (a : String × Expectation) : Prop :=
  a.1 = m.1 ∧ readExpectation engine m.1 m.2 = .ok a.2

/-- The draft with a member taken in. -/
inductive Draft.Takes (engine : PatternEngine) (draft : Draft) : String × Json.Value → Draft → Prop
  | selector {text : String} {s : Selector} (h : Selector.parse text = .ok s) :
      Takes engine draft ("rule::selector", .string text) { draft with selector := some s }
  | whitelist (b : Bool) : Takes engine draft ("rule::whitelist", .bool b) { draft with whitelist := b }
  | order (v : Json.Value) : Takes engine draft ("rule::order", v) { draft with order := some v }
  | listed {key : String} {v : Json.Value} {e : Expectation} (hkey : isReserved key = false)
      (h : readExpectation engine key v = .ok e) :
      Takes engine draft (key, v) { draft with attributes := draft.attributes ++ [(key, e)] }

theorem takes_of_read {m : String × Json.Value} (h : draft.read engine m = .ok next) :
    draft.Takes engine m next := by
  obtain ⟨key, v⟩ := m
  unfold Draft.read at h
  dsimp only at h
  split at h
  · split at h
    · obtain ⟨s, hs, rfl⟩ := map_eq_ok.mp h
      exact .selector (readSelector_eq_ok.mp hs)
    · cases h
  · split at h
    · cases h
      exact .whitelist _
    · cases h
  · cases h
    exact .order v
  · split at h
    · cases h
    · rename_i hkey
      obtain ⟨e, he, rfl⟩ := map_eq_ok.mp h
      exact .listed (Bool.eq_false_of_not_eq_true hkey) he

/-- The draft of members: of the keys about the rule the last member counts. -/
structure Draft.Reads (engine : PatternEngine) (members : List (String × Json.Value))
    (draft : Draft) : Prop where
  attributes : List.Forall₂ (Expects engine) (listed members) draft.attributes
  whitelist : draft.whitelist =
    ((members.reverse.lookup "rule::whitelist").bind Json.Value.asBool?).getD false
  order : draft.order = members.reverse.lookup "rule::order"
  selector :
    (∃ text s, members.reverse.lookup "rule::selector" = some (.string text) ∧
      Selector.parse text = .ok s ∧ draft.selector = some s) ∨
    (members.reverse.lookup "rule::selector" = none ∧ draft.selector = none)

theorem Draft.Reads.empty : Draft.Reads engine [] .empty := ⟨.nil, rfl, rfl, .inr ⟨rfl, rfl⟩⟩

theorem lookup_reverse_concat (key : String) (m : String × Json.Value) :
    (members ++ [m]).reverse.lookup key =
      if key = m.1 then some m.2 else members.reverse.lookup key := by
  rw [List.reverse_append, List.reverse_singleton, List.singleton_append]
  exact Entries.lookup_cons key m.1 m.2 members.reverse

theorem ne_of_isReserved {key reserved : String} (hkey : isReserved key = false)
    (h : isReserved reserved = true) : reserved ≠ key := by
  rintro rfl
  rw [h] at hkey
  cases hkey

theorem listed_concat_reserved {key : String} (h : isReserved key = true) (v : Json.Value) :
    listed (members ++ [(key, v)]) = listed members := by
  simp [listed, h]

theorem listed_concat {key : String} (h : isReserved key = false) (v : Json.Value) :
    listed (members ++ [(key, v)]) = listed members ++ [(key, v)] := by
  simp [listed, h]

theorem Draft.Reads.concat {m : String × Json.Value} (h : draft.Reads engine members)
    (hm : draft.Takes engine m next) : next.Reads engine (members ++ [m]) := by
  obtain ⟨hattributes, hwhitelist, horder, hselector⟩ := h
  cases hm with
  | @selector text s hs =>
    have hkey : isReserved "rule::selector" = true := rfl
    refine ⟨by rwa [listed_concat_reserved hkey], ?_, ?_, ?_⟩ <;>
      rw [lookup_reverse_concat]
    · exact hwhitelist
    · exact horder
    · exact .inl ⟨text, s, rfl, hs, rfl⟩
  | whitelist b =>
    have hkey : isReserved "rule::whitelist" = true := rfl
    refine ⟨by rwa [listed_concat_reserved hkey], ?_, ?_, ?_⟩ <;>
      rw [lookup_reverse_concat]
    · rfl
    · exact horder
    · exact hselector
  | order v =>
    have hkey : isReserved "rule::order" = true := rfl
    refine ⟨by rwa [listed_concat_reserved hkey], ?_, ?_, ?_⟩ <;>
      rw [lookup_reverse_concat]
    · exact hwhitelist
    · rfl
    · exact hselector
  | @listed key v e hkey he =>
    refine ⟨?_, ?_, ?_, ?_⟩
    · rw [listed_concat hkey]
      exact List.rel_append hattributes (.cons ⟨rfl, he⟩ .nil)
    all_goals rw [lookup_reverse_concat, if_neg (ne_of_isReserved hkey rfl)]
    · exact hwhitelist
    · exact horder
    · exact hselector

theorem reads_of_foldlM (h : members.foldlM (Draft.read engine) .empty = .ok draft) :
    draft.Reads engine members := by
  induction members using List.reverseRecOn generalizing draft with
  | nil =>
    cases h
    exact .empty
  | append_singleton members m ih =>
    rw [List.foldlM_append] at h
    obtain ⟨before, hbefore, h⟩ := bind_eq_ok.mp h
    rw [List.foldlM_cons] at h
    obtain ⟨last, hlast, h⟩ := bind_eq_ok.mp h
    cases h
    exact (ih hbefore).concat (takes_of_read hlast)

/-! ## The options as a whole -/

/-- The names whose order counts. -/
def orderOf (members : List (String × Json.Value)) : Option (List String) :=
  match members.lookup "rule::order" with
  | some (.bool true) => some (listedNames members)
  | some (.array names) => names.mapM Json.Value.asString?
  | _ => none

/-- Whether the options are about a node: the selector matches it, or there is
none and it is an element. -/
def selects (d : Document) (members : List (String × Json.Value)) (id : NodeId) : Bool :=
  match members.lookup "rule::selector" with
  | some (.string text) => d.matchesText text id
  | _ => d.isElement id

/-- The rule that options configure. -/
structure Configures (engine : PatternEngine) (members : List (String × Json.Value)) (c : Config) :
    Prop where
  attributes : List.Forall₂ (Expects engine) (listed members) c.attributes
  whitelist : c.whitelist = true ↔ members.lookup "rule::whitelist" = some (.bool true)
  order : c.order = orderOf members
  selector : ∀ v, members.lookup "rule::selector" = some v →
    ∃ text s, v = .string text ∧ Selector.parse text = .ok s
  selection : ∀ source d, Document.parse source = .ok d →
    d.select c.selector = (List.range d.size).filter (selects d members)

theorem map_fst_of_expects {as : List (String × Expectation)}
    (h : List.Forall₂ (Expects engine) (listed members) as) :
    as.map Prod.fst = listedNames members := by
  unfold listedNames
  generalize listed members = ms at h
  induction h with
  | nil => rfl
  | cons hm _ ih => rw [List.map_cons, List.map_cons, hm.1, ih]

theorem Draft.Reads.readOrder {order : Option (List String)} (h : draft.Reads engine members)
    (distinct : (members.map Prod.fst).Nodup) (hread : draft.readOrder = .ok order) :
    order = orderOf members := by
  have horder := h.order
  rw [Entries.lookup_reverse distinct] at horder
  unfold Draft.readOrder at hread
  unfold orderOf
  rw [← horder, ← map_fst_of_expects h.attributes]
  split at hread
  · rename_i hnone
    cases hread
    rw [hnone]
  · rename_i hfalse
    cases hread
    rw [hfalse]
  · rename_i htrue
    cases hread
    rw [htrue]
  · rename_i names harray
    rw [harray]
    split at hread
    · rename_i read hnames
      cases hread
      exact hnames.symm
    · cases hread
  · cases hread

theorem selects_of_selection {s : Selector} {source : List Char} {d : Document}
    (h : draft.Reads engine members) (distinct : (members.map Prod.fst).Nodup)
    (hread : draft.selection = .ok s) (parsed : Document.parse source = .ok d) :
    d.select s = (List.range d.size).filter (selects d members) := by
  have hselector := h.selector
  rw [Entries.lookup_reverse distinct] at hselector
  rw [Document.select_eq_filter parsed]
  refine List.filter_congr fun id _ => ?_
  unfold Draft.selection at hread
  unfold selects
  rcases hselector with ⟨text, s', hlookup, hs', hdraft⟩ | ⟨hlookup, hdraft⟩
  · rw [hdraft] at hread
    cases hread
    rw [hlookup]
    exact (Document.matchesText_eq hs').symm
  · rw [hdraft] at hread
    rw [hlookup, ← Document.matchesText_eq (readSelector_eq_ok.mp hread), Document.matchesText_star]

theorem configures_of_readConfig (distinct : (members.map Prod.fst).Nodup)
    (h : readConfig engine members = .ok c) : Configures engine members c := by
  rw [readConfig_eq] at h
  obtain ⟨draft, hdraft, h⟩ := bind_eq_ok.mp h
  obtain ⟨order, horder, h⟩ := bind_eq_ok.mp h
  obtain ⟨s, hs, h⟩ := bind_eq_ok.mp h
  cases h
  have hreads := reads_of_foldlM hdraft
  refine ⟨hreads.attributes, ?_, hreads.readOrder distinct horder, fun v hv => ?_,
    fun source d parsed => selects_of_selection hreads distinct hs parsed⟩
  · show draft.whitelist = true ↔ _
    rw [hreads.whitelist, Entries.lookup_reverse distinct]
    cases members.lookup "rule::whitelist" with
    | none => simp
    | some v => cases v <;> simp [Json.Value.asBool?]
  · rw [← Entries.lookup_reverse distinct] at hv
    rcases hreads.selector with ⟨text, s', hlookup, hs', -⟩ | ⟨hlookup, -⟩ <;>
      rw [hlookup] at hv <;> cases hv
    exact ⟨text, s', rfl, hs'⟩

end VectorLint.Attributes
