/-
What `attr` reports. With the names that are not listed, the mismatches of
values are the complaints about an element, one at most for each attribute
(`Complaint`, `nodup_named`). An ordering comes behind them and is told apart
by how it begins.
-/
import VectorLint.Proofs.Document.Tree
import VectorLint.Proofs.Rule.Ordering
import VectorLint.Proofs.Rule.Values

namespace VectorLint.Attributes

variable {engine : PatternEngine} {members : List (String × Json.Value)} {c : Config} {n : Node}
  {d : Document} {source : List Char} {name : String} {v : Json.Value} {value : Option String}
  {m : Message}

/-! ## The complaints about an element -/

/-- What may be said of an attribute of an element. -/
inductive Complaint (engine : PatternEngine) (members : List (String × Json.Value)) (n : Node) :
    String × Message → Prop
  | mismatch {name : String} {v : Json.Value} {m : Message} (hlisted : (name, v) ∈ listed members)
      (h : Mismatch engine name v (n.attribute? name) m) : Complaint engine members n (name, m)
  | unlisted {name : String} (hwhitelist : members.lookup "rule::whitelist" = some (.bool true))
      (hname : name ∈ n.attributes.map Prod.fst) (hunlisted : name ∉ listedNames members) :
      Complaint engine members n (name, .ofText ("Attribute '" ++ name ++ "' not allowed"))

/-- Whether a message is about the order of attributes. -/
def IsOrdering (m : Message) : Prop :=
  m.parts.head? = some (.string "Wrong ordering of attributes, found")

/-- The values that are not as expected, each with its attribute. -/
def mismatches (as : List (String × Expectation)) (n : Node) : List (String × Message) :=
  as.filterMap fun a => (a.2.violation a.1 (n.attribute? a.1)).map (a.1, ·)

/-- The attributes that are not listed but have to be. -/
def Config.unlisted (c : Config) (n : Node) : List String :=
  if c.whitelist then
    (n.attributes.map Prod.fst).filter fun name => !(c.attributes.map Prod.fst).contains name
  else []

/-- The violations of an element, an ordering apart, each with the attribute
that it is about. -/
def Config.named (c : Config) (n : Node) : List (String × Message) :=
  mismatches c.attributes n ++
    (c.unlisted n).map fun name => (name, .ofText ("Attribute '" ++ name ++ "' not allowed"))

theorem violations_eq (c : Config) (n : Node) :
    c.violations n =
      (c.named n).map Prod.snd ++ (c.order.bind (orderViolation · n)).toList := by
  have hmismatches : (mismatches c.attributes n).map Prod.snd =
      c.attributes.filterMap fun a => a.2.violation a.1 (n.attribute? a.1) := by
    rw [mismatches, List.map_filterMap]
    refine List.filterMap_congr fun a _ => ?_
    cases a.2.violation a.1 (n.attribute? a.1) <;> rfl
  have hunlisted : ((c.unlisted n).map fun name =>
        (name, Message.ofText ("Attribute '" ++ name ++ "' not allowed"))).map Prod.snd =
      if c.whitelist then
        ((n.attributes.map Prod.fst).filter fun name =>
          !(c.attributes.map Prod.fst).contains name).map
          fun name => .ofText ("Attribute '" ++ name ++ "' not allowed")
      else [] := by
    rw [Config.unlisted, List.map_map]
    split <;> rfl
  rw [Config.named, List.map_append, hmismatches, hunlisted]
  rfl

theorem mem_mismatches_iff {as : List (String × Expectation)} {ms : List (String × Json.Value)}
    (h : List.Forall₂ (Expects engine) ms as) :
    (name, m) ∈ mismatches as n ↔
      ∃ v, (name, v) ∈ ms ∧ Mismatch engine name v (n.attribute? name) m := by
  induction h with
  | nil => simp [mismatches]
  | @cons member a ms as ha _ ih =>
    obtain ⟨hname, hread⟩ := ha
    have hhead : (a.2.violation a.1 (n.attribute? a.1)).map (a.1, ·) = some (name, m) ↔
        name = member.1 ∧ Mismatch engine name member.2 (n.attribute? name) m := by
      rw [hname, Option.map_eq_some_iff]
      constructor
      · rintro ⟨m', hm', heq⟩
        cases heq
        exact ⟨rfl, (violation_eq_some_iff hread).mp hm'⟩
      · rintro ⟨rfl, hm⟩
        exact ⟨m, (violation_eq_some_iff hread).mpr hm, rfl⟩
    have hcons : (name, m) ∈ mismatches (a :: as) n ↔
        (a.2.violation a.1 (n.attribute? a.1)).map (a.1, ·) = some (name, m) ∨
          (name, m) ∈ mismatches as n := by
      simp only [mismatches, List.mem_filterMap, List.mem_cons, exists_eq_or_imp]
    rw [hcons, hhead, ih]
    constructor
    · rintro (⟨rfl, hm⟩ | ⟨v, hv, hm⟩)
      · exact ⟨member.2, List.mem_cons_self, hm⟩
      · exact ⟨v, List.mem_cons_of_mem member hv, hm⟩
    · rintro ⟨v, hv, hm⟩
      rcases List.mem_cons.mp hv with heq | hv
      · cases heq
        exact .inl ⟨rfl, hm⟩
      · exact .inr ⟨v, hv, hm⟩

theorem mismatches_eq_nil_iff {as : List (String × Expectation)} {ms : List (String × Json.Value)}
    (h : List.Forall₂ (Expects engine) ms as) :
    mismatches as n = [] ↔ ∀ member ∈ ms, Allows engine member.2 (n.attribute? member.1) := by
  induction h with
  | nil => simp [mismatches]
  | @cons member a ms as ha _ ih =>
    obtain ⟨hname, hread⟩ := ha
    have hhead : a.2.violation a.1 (n.attribute? a.1) = none ↔
        Allows engine member.2 (n.attribute? member.1) := by
      rw [hname]
      exact violation_eq_none_iff hread
    rw [List.forall_mem_cons, ← ih, ← hhead]
    simp only [mismatches, List.filterMap_eq_nil_iff, List.forall_mem_cons, Option.map_eq_none_iff]

theorem map_fst_mismatches_sublist (as : List (String × Expectation)) (n : Node) :
    ((mismatches as n).map Prod.fst).Sublist (as.map Prod.fst) := by
  induction as with
  | nil => exact .slnil
  | cons a as ih =>
    unfold mismatches at ih ⊢
    rw [List.filterMap_cons]
    split
    · exact ih.cons a.1
    · rename_i found hfound
      obtain ⟨m, -, rfl⟩ := Option.map_eq_some_iff.mp hfound
      exact ih.cons_cons a.1

theorem nodup_listedNames (distinct : (members.map Prod.fst).Nodup) : (listedNames members).Nodup :=
  distinct.sublist (List.filter_sublist.map Prod.fst)

section

variable (h : Configures engine members c)
include h

theorem mem_unlisted_iff : name ∈ c.unlisted n ↔
    members.lookup "rule::whitelist" = some (.bool true) ∧ name ∈ n.attributes.map Prod.fst ∧
      name ∉ listedNames members := by
  rw [← h.whitelist, ← map_fst_of_expects h.attributes, Config.unlisted]
  cases c.whitelist with
  | true => simp only [if_true, List.mem_filter, Bool.not_eq_true', List.contains_eq_mem,
      decide_eq_false_iff_not, true_and]
  | false => simp

theorem unlisted_eq_nil_iff : c.unlisted n = [] ↔
    (members.lookup "rule::whitelist" = some (.bool true) →
      ∀ name ∈ n.attributes.map Prod.fst, name ∈ listedNames members) := by
  simp only [List.eq_nil_iff_forall_not_mem, mem_unlisted_iff h, not_and, not_not]
  exact ⟨fun hall hwhitelist name => hall name hwhitelist, fun hall name hwhitelist => hall hwhitelist name⟩

theorem mem_named_iff {a : String × Message} : a ∈ c.named n ↔ Complaint engine members n a := by
  obtain ⟨name, m⟩ := a
  rw [Config.named, List.mem_append, mem_mismatches_iff h.attributes, List.mem_map]
  constructor
  · rintro (⟨v, hv, hm⟩ | ⟨name, hname, heq⟩)
    · exact .mismatch hv hm
    · cases heq
      obtain ⟨hwhitelist, hmem, hnot⟩ := (mem_unlisted_iff h).mp hname
      exact .unlisted hwhitelist hmem hnot
  · intro hcomplaint
    cases hcomplaint with
    | mismatch hv hm => exact .inl ⟨_, hv, hm⟩
    | unlisted hwhitelist hmem hnot =>
      exact .inr ⟨name, (mem_unlisted_iff h).mpr ⟨hwhitelist, hmem, hnot⟩, rfl⟩

/-- There is one complaint at most about each attribute. -/
theorem nodup_named (distinct : (members.map Prod.fst).Nodup)
    (hnode : (n.attributes.map Prod.fst).Nodup) : ((c.named n).map Prod.fst).Nodup := by
  have hfst : (c.named n).map Prod.fst =
      (mismatches c.attributes n).map Prod.fst ++ c.unlisted n := by
    simp [Config.named, Function.comp_def]
  have hsublist := map_fst_mismatches_sublist c.attributes n
  rw [map_fst_of_expects h.attributes] at hsublist
  have hunlisted : (c.unlisted n).Nodup := by
    unfold Config.unlisted
    split
    · exact hnode.filter _
    · exact List.nodup_nil
  rw [hfst, List.nodup_append]
  refine ⟨(nodup_listedNames distinct).sublist hsublist, hunlisted, fun name hname other hother => ?_⟩
  have hnot := ((mem_unlisted_iff h).mp hother).2.2
  exact ne_of_mem_of_not_mem (hsublist.subset hname) hnot

/-- The messages about an element. -/
theorem mem_violations_iff : m ∈ c.violations n ↔
    (∃ name, Complaint engine members n (name, m)) ∨
      ∃ order, orderOf members = some order ∧ orderViolation order n = some m := by
  rw [violations_eq, List.mem_append, List.mem_map, Option.mem_toList, Option.bind_eq_some_iff,
    h.order]
  refine or_congr ⟨?_, ?_⟩ Iff.rfl
  · rintro ⟨⟨name, _⟩, ha, rfl⟩
    exact ⟨name, (mem_named_iff h).mp ha⟩
  · rintro ⟨name, ha⟩
    exact ⟨(name, m), (mem_named_iff h).mpr ha, rfl⟩

end

theorem not_isOrdering_of_head {text : String} {parts : List Json.Value}
    (h : text.toList.head? ≠ some 'W') : ¬ IsOrdering ⟨.string text :: parts⟩ := by
  intro hm
  cases hm
  exact h rfl

theorem Mismatch.not_isOrdering (h : Mismatch engine name v value m) : ¬ IsOrdering m := by
  cases h <;> exact not_isOrdering_of_head (by simp [String.toList_append])

theorem Complaint.not_isOrdering {a : String × Message} (h : Complaint engine members n a) :
    ¬ IsOrdering a.2 := by
  cases h with
  | mismatch _ h => exact h.not_isOrdering
  | unlisted => exact not_isOrdering_of_head (by simp [String.toList_append])

theorem isOrdering_of_orderViolation {order : List String} (h : orderViolation order n = some m) :
    IsOrdering m := by
  unfold orderViolation at h
  dsimp only at h
  split at h
  · cases h
  · cases h
    rfl

/-! ## What a check comes to -/

/-- What the options want of an element. -/
structure Conforms (engine : PatternEngine) (members : List (String × Json.Value)) (n : Node) :
    Prop where
  listed : ∀ member ∈ listed members, Allows engine member.2 (n.attribute? member.1)
  whitelisted : members.lookup "rule::whitelist" = some (.bool true) →
    ∀ name ∈ n.attributes.map Prod.fst, name ∈ listedNames members
  ordered : members.lookup "rule::order" = some (.bool true) →
    Follows (listedNames members) (n.attributes.map Prod.fst)

/-- The messages about an element: complaints, one at most about each
attribute, and behind them an ordering. -/
structure Findings (engine : PatternEngine) (members : List (String × Json.Value)) (n : Node)
    (messages : List Message) : Prop where
  passes : messages = [] ↔ Conforms engine members n
  decomposes : ∃ (named : List (String × Message)) (ordering : Option Message),
    messages = named.map Prod.snd ++ ordering.toList ∧ (named.map Prod.fst).Nodup ∧
      (∀ a, a ∈ named ↔ Complaint engine members n a) ∧ (∀ a ∈ named, ¬ IsOrdering a.2) ∧
      ∀ m ∈ ordering, IsOrdering m

theorem orderOf_eq_some_iff {order : List String}
    (ordered : ∀ v, members.lookup "rule::order" = some v → ∃ b, v = .bool b) :
    orderOf members = some order ↔
      members.lookup "rule::order" = some (.bool true) ∧ listedNames members = order := by
  unfold orderOf
  cases horder : members.lookup "rule::order" with
  | none => simp
  | some v =>
    obtain ⟨b, rfl⟩ := ordered v horder
    cases b <;> simp

theorem ordering_eq_none_iff (distinct : (members.map Prod.fst).Nodup)
    (ordered : ∀ v, members.lookup "rule::order" = some v → ∃ b, v = .bool b)
    (hnode : (n.attributes.map Prod.fst).Nodup) :
    (orderOf members).bind (orderViolation · n) = none ↔
      (members.lookup "rule::order" = some (.bool true) →
        Follows (listedNames members) (n.attributes.map Prod.fst)) := by
  rw [Option.bind_eq_none_iff]
  constructor
  · intro hnone htrue
    have hviolation := hnone _ ((orderOf_eq_some_iff ordered).mpr ⟨htrue, rfl⟩)
    exact ((orderViolation_eq_none_iff hnode).mp hviolation).1
  · intro hfollows order horder
    obtain ⟨htrue, rfl⟩ := (orderOf_eq_some_iff ordered).mp horder
    -- The keys of the options are distinct, so each name is listed once.
    have honce := List.nodup_iff_count_le_one.mp (nodup_listedNames distinct)
    exact (orderViolation_eq_none_iff hnode).mpr ⟨hfollows htrue, fun name _ => honce name⟩

theorem findings_of_configures (h : Configures engine members c) (distinct : (members.map Prod.fst).Nodup)
    (ordered : ∀ v, members.lookup "rule::order" = some v → ∃ b, v = .bool b)
    (hnode : (n.attributes.map Prod.fst).Nodup) : Findings engine members n (c.violations n) where
  passes := by
    rw [violations_eq, h.order, List.append_eq_nil_iff, List.map_eq_nil_iff, Option.toList_eq_nil_iff,
      Config.named, List.append_eq_nil_iff, List.map_eq_nil_iff, mismatches_eq_nil_iff h.attributes,
      unlisted_eq_nil_iff h, ordering_eq_none_iff distinct ordered hnode]
    exact ⟨fun ⟨⟨hl, hw⟩, ho⟩ => ⟨hl, hw, ho⟩, fun ⟨hl, hw, ho⟩ => ⟨⟨hl, hw⟩, ho⟩⟩
  decomposes := by
    refine ⟨c.named n, c.order.bind (orderViolation · n), violations_eq c n,
      nodup_named h distinct hnode, fun a => mem_named_iff h,
      fun a ha => ((mem_named_iff h).mp ha).not_isOrdering, fun m hm => ?_⟩
    obtain ⟨order, -, hviolation⟩ := Option.bind_eq_some_iff.mp hm
    exact isOrdering_of_orderViolation hviolation

/-- The messages about the node of a number. -/
def Config.messages (c : Config) (d : Document) (id : NodeId) : List Message :=
  (d.get? id).elim [] c.violations

theorem errors_eq_flatMap (h : Configures engine members c) (parsed : Document.parse source = .ok d) :
    errors c d = ((List.range d.size).filter (selects d members)).flatMap fun id =>
      (c.messages d id).map (·, d.ref? id) := by
  rw [errors, h.selection source d parsed]
  refine List.flatMap_congr fun id _ => ?_
  unfold Config.messages
  cases d.get? id <;> rfl

theorem isElement_of_selects {id : NodeId} (h : selects d members id = true) :
    d.isElement id = true := by
  unfold selects at h
  split at h
  · exact Document.isElement_of_matchesText h
  · exact h

theorem lt_of_selects {id : NodeId} (h : selects d members id = true) : id < d.size :=
  Document.lt_of_isElement (isElement_of_selects h)

theorem nodup_of_selects {id : NodeId} (parsed : Document.parse source = .ok d)
    (h : selects d members id = true) (hn : d.get? id = some n) :
    (n.attributes.map Prod.fst).Nodup := by
  obtain ⟨n', hn', helement⟩ := Document.isElement_iff.mp (isElement_of_selects h)
  obtain rfl : n = n' := Option.some.inj (hn.symm.trans hn')
  exact ((Document.isTree_of_parse parsed).element id n hn helement).2

/-- The errors of a rule with the given options on a document. -/
structure Accords (engine : PatternEngine) (d : Document) (members : List (String × Json.Value))
    (errors : List (Message × Option NodeRef)) : Prop where
  passes : errors = [] ↔
    ∀ id n, selects d members id = true → d.get? id = some n → Conforms engine members n
  /-- The errors come element by element, in source order, in which the nodes are
  numbered. -/
  arranged : ∃ messages : NodeId → List Message,
    errors = ((List.range d.size).filter (selects d members)).flatMap
      (fun id => (messages id).map (·, d.ref? id)) ∧
    ∀ id n, selects d members id = true → d.get? id = some n → Findings engine members n (messages id)
  placed : ∀ e ∈ errors, ∃ r, e.2 = some r ∧ r.document = d ∧ d.isElement r.id = true ∧
    selects d members r.id = true

theorem accords_of_configures (h : Configures engine members c) (distinct : (members.map Prod.fst).Nodup)
    (ordered : ∀ v, members.lookup "rule::order" = some v → ∃ b, v = .bool b)
    (parsed : Document.parse source = .ok d) : Accords engine d members (errors c d) := by
  have hfindings {id : NodeId} {n : Node} (hid : selects d members id = true)
      (hn : d.get? id = some n) : Findings engine members n (c.messages d id) := by
    rw [Config.messages, hn]
    exact findings_of_configures h distinct ordered (nodup_of_selects parsed hid hn)
  rw [errors_eq_flatMap h parsed]
  refine ⟨?_, ⟨c.messages d, rfl, fun _ _ => hfindings⟩, ?_⟩
  · simp only [List.flatMap_eq_nil_iff, List.map_eq_nil_iff, List.mem_filter, List.mem_range]
    constructor
    · intro hnil id n hid hn
      exact (hfindings hid hn).passes.mp (hnil id ⟨lt_of_selects hid, hid⟩)
    · rintro hconforms id ⟨-, hid⟩
      cases hn : d.get? id with
      | none => rw [Config.messages, hn, Option.elim_none]
      | some n => exact (hfindings hid hn).passes.mpr (hconforms id n hid hn)
  · intro e he
    obtain ⟨id, hid, he⟩ := List.mem_flatMap.mp he
    have hselects := (List.mem_filter.mp hid).2
    obtain ⟨m, -, rfl⟩ := List.mem_map.mp he
    obtain ⟨r, hr⟩ := Document.exists_ref? (lt_of_selects hselects)
    obtain ⟨hdocument, hrid, -⟩ := Document.of_ref?_eq_some hr
    exact ⟨r, hr, hdocument, hrid ▸ isElement_of_selects hselects, hrid ▸ hselects⟩

/-- **What `attr` reports.** Options whose keys are distinct, and whose order is
that of the keys if they have one, report nothing exactly if each element that
they select conforms to them; otherwise each complaint about such an element
once, and its ordering. -/
theorem check_constraints (engine : PatternEngine) (members : List (String × Json.Value)) (rule : Rule)
    (source : List Char) (d : Document)
    (distinct : (members.map Prod.fst).Nodup)
    (accepted : factory engine (.data (.object members)) = .ok rule)
    (ordered : ∀ v, members.lookup "rule::order" = some v → ∃ b, v = .bool b)
    (parsed : Document.parse source = .ok d) :
    (∀ v, members.lookup "rule::selector" = some v →
      ∃ text s, v = .string text ∧ Selector.parse text = .ok s) ∧
    ∃ errors, rule.Reports d errors ∧ Accords engine d members errors := by
  obtain ⟨members', c, hoptions, hread, rfl⟩ := factory_eq_ok accepted
  cases hoptions
  have hconfigures := configures_of_readConfig distinct hread
  exact ⟨hconfigures.selector, errors c d, Rule.reports_ofErrors _ d,
    accords_of_configures hconfigures distinct ordered parsed⟩

/-- Options of every kind. -/
def assorted : List (String × Json.Value) :=
  [("rule::selector", .string "g > rect"), ("x", .bool true), ("id", .bool false),
    ("rule::whitelist", .bool true), ("width", .string "/^[0-9]+$/"),
    ("fill", .array [.string "red", .string "blue"]), ("rule::order", .bool true)]

/-- The first rectangle is as these options want it and the third is not
selected; the second lacks two attributes and has a wrong value of another. -/
def rectangles : String :=
  "<svg><g><rect x='1' width='20' fill='blue'/><rect width='wide'/></g><rect/></svg>"

theorem check_assorted : ∃ rule d errors,
    factory Pattern.engine (.data (.object assorted)) = .ok rule ∧
    Document.parse rectangles.toList = .ok d ∧
    rule.Reports d errors ∧ errors ≠ [] ∧ ∀ e ∈ errors, isAt 3 e = true := by
  obtain ⟨rule, accepted⟩ : ∃ rule, factory Pattern.engine (.data (.object assorted)) = .ok rule :=
    exists_ok_of_isOk (by decide +kernel)
  have facts : (Document.parse rectangles.toList).toOption.map (fun d =>
      ((List.range d.size).filter (selects d assorted), (d.get? 2).map Node.attributes,
        (d.get? 3).map Node.attributes)) =
      some ([2, 3], some [("x", "1"), ("width", "20"), ("fill", "blue")],
        some [("width", "wide")]) := by
    decide +kernel
  obtain ⟨d, hd, facts⟩ := Option.map_eq_some_iff.mp facts
  have parsed := toOption_eq_some.mp hd
  simp only [Prod.mk.injEq, Option.map_eq_some_iff] at facts
  obtain ⟨hselected, ⟨first, hfirst, hsound⟩, ⟨second, hsecond, hfaulty⟩⟩ := facts
  obtain ⟨-, errors, reports, accords⟩ := check_constraints Pattern.engine assorted rule _ d
    (by decide) accepted (fun v hv => ⟨true, (Option.some.inj hv).symm⟩) parsed
  obtain ⟨messages, arranged, findings⟩ := accords.arranged
  have hselects {id : NodeId} (hid : id ∈ [2, 3]) : selects d assorted id = true :=
    (List.mem_filter.mp (hselected ▸ hid)).2
  have conforms : Conforms Pattern.engine assorted first := by
    refine ⟨?_, fun _ => by rw [hsound]; decide, fun _ => by rw [hsound]; decide⟩
    have hlisted : listed assorted = [("x", .bool true), ("id", .bool false),
        ("width", .string "/^[0-9]+$/"), ("fill", .array [.string "red", .string "blue"])] := rfl
    have hdigits : (Pattern.engine "^[0-9]+$").toOption.map (· "20") = some true := by
      decide +kernel
    obtain ⟨accepts, hdigits, hmatch⟩ := Option.map_eq_some_iff.mp hdigits
    rw [hlisted]
    simp only [List.forall_mem_cons, Node.attribute?, hsound]
    exact ⟨.present "1", .absent, .pattern rfl (toOption_eq_some.mp hdigits) hmatch,
      .item (by simp), List.forall_mem_nil _⟩
  have passes : messages 2 = [] := (findings 2 first (hselects (by decide)) hfirst).passes.mpr conforms
  have fails : messages 3 ≠ [] := fun hnil => by
    have hconforms := (findings 3 second (hselects (by decide)) hsecond).passes.mp hnil
    have hallows := hconforms.listed ("x", .bool true) (List.mem_cons_self)
    rw [Node.attribute?, hfaulty] at hallows
    cases hallows
  rw [hselected, List.flatMap_cons, passes, List.map_nil, List.nil_append, List.flatMap_singleton]
    at arranged
  refine ⟨rule, d, errors, accepted, parsed, reports, ?_, ?_⟩
  · rwa [arranged, Ne, List.map_eq_nil_iff]
  · rw [arranged, List.forall_mem_map]
    intro m _
    rw [isAt_ref? m (Array.getElem?_eq_some_iff.mp hsecond).1]
    rfl

/-! ## Orders that are given -/

/-- An ordering is reported at a selected element that is not in order. -/
theorem exists_ordering_iff {id : NodeId} (h : Configures engine members c)
    (parsed : Document.parse source = .ok d) (hn : d.get? id = some n) :
    (∃ e ∈ errors c d, isAt id e = true ∧ IsOrdering e.1) ↔
      selects d members id = true ∧
        ∃ order, orderOf members = some order ∧ orderViolation order n ≠ none := by
  have hmessages : c.messages d id = c.violations n := by rw [Config.messages, hn, Option.elim_some]
  rw [errors_eq_flatMap h parsed]
  constructor
  · rintro ⟨e, he, hat, hordering⟩
    obtain ⟨other, hother, he⟩ := List.mem_flatMap.mp he
    obtain ⟨m, hm, rfl⟩ := List.mem_map.mp he
    have hselects := (List.mem_filter.mp hother).2
    rw [isAt_ref? m (lt_of_selects hselects), decide_eq_true_eq] at hat
    subst hat
    rw [hmessages] at hm
    rcases (mem_violations_iff h).mp hm with ⟨name, hcomplaint⟩ | ⟨order, horder, hviolation⟩
    · exact absurd hordering hcomplaint.not_isOrdering
    · exact ⟨hselects, order, horder, by simp [hviolation]⟩
  · rintro ⟨hselects, order, horder, hviolation⟩
    obtain ⟨m, hm⟩ := Option.ne_none_iff_exists'.mp hviolation
    have hlt := lt_of_selects hselects
    refine ⟨(m, d.ref? id), List.mem_flatMap.mpr ⟨id, ?_, List.mem_map.mpr ⟨m, ?_, rfl⟩⟩, ?_,
      isOrdering_of_orderViolation hm⟩
    · exact List.mem_filter.mpr ⟨List.mem_range.mpr hlt, hselects⟩
    · rw [hmessages]
      exact (mem_violations_iff h).mpr (.inr ⟨order, horder, hm⟩)
    · rw [isAt_ref? m hlt, decide_eq_true_eq]

theorem mapM_asString?_map_string (names : List String) :
    (names.map Json.Value.string).mapM Json.Value.asString? = some names := by
  induction names with
  | nil => rfl
  | cons name names ih =>
    rw [List.map_cons, List.mapM_cons, ih]
    rfl

theorem orderOf_array {names : List String}
    (h : members.lookup "rule::order" = some (.array (names.map .string))) :
    orderOf members = some names := by
  rw [orderOf, h]
  exact mapM_asString?_map_string names

/-- **Which elements are out of order.** Two attributes stand the wrong way
round, or one that is there is listed more than once. -/
theorem ordering_reported_iff (engine : PatternEngine) (members : List (String × Json.Value))
    (names : List String) (rule : Rule) (source : List Char) (d : Document) (id : NodeId) (n : Node)
    (distinct : (members.map Prod.fst).Nodup)
    (accepted : factory engine (.data (.object members)) = .ok rule)
    (given : members.lookup "rule::order" = some (.array (names.map .string)))
    (parsed : Document.parse source = .ok d) (there : d.get? id = some n) :
    ∃ errors, rule.Reports d errors ∧
      ((∃ e ∈ errors, isAt id e = true ∧ IsOrdering e.1) ↔
        selects d members id = true ∧
          ((∃ x y, [x, y].Sublist (n.attributes.map Prod.fst) ∧ x ∈ names ∧ y ∈ names ∧
              names.idxOf y < names.idxOf x) ∨
            ∃ x ∈ n.attributes.map Prod.fst, 2 ≤ names.count x)) := by
  obtain ⟨members', c, hoptions, hread, rfl⟩ := factory_eq_ok accepted
  cases hoptions
  have hconfigures := configures_of_readConfig distinct hread
  refine ⟨errors c d, Rule.reports_ofErrors _ d, ?_⟩
  rw [exists_ordering_iff hconfigures parsed there, orderOf_array given]
  refine and_congr_right fun hselects => ?_
  have hnode := nodup_of_selects parsed hselects there
  rw [← not_follows_iff hnode]
  simp only [Option.some.injEq, exists_eq_left', ne_eq, orderViolation_eq_none_iff hnode,
    not_and_or, not_forall, Nat.not_le, exists_prop]
  exact Iff.rfl

theorem check_swappedNames : ∃ rule d errors,
    factory Pattern.engine (.data (.object [("rule::selector", .string "g"),
      ("rule::order", .array (["y", "x"].map .string))])) = .ok rule ∧
    Document.parse "<svg><g x='1' z='2' y='3'/></svg>".toList = .ok d ∧
    rule.Reports d errors ∧ ∃ e ∈ errors, isAt 1 e = true ∧ IsOrdering e.1 := by
  obtain ⟨rule, accepted⟩ : ∃ rule, factory Pattern.engine (.data (.object
      [("rule::selector", .string "g"), ("rule::order", .array (["y", "x"].map .string))])) =
        .ok rule :=
    exists_ok_of_isOk (by decide +kernel)
  have facts : (Document.parse "<svg><g x='1' z='2' y='3'/></svg>".toList).toOption.map (fun d =>
      (d.matchesText "g" 1, (d.get? 1).map Node.attributes)) =
      some (true, some [("x", "1"), ("z", "2"), ("y", "3")]) := by
    decide +kernel
  obtain ⟨d, hd, facts⟩ := Option.map_eq_some_iff.mp facts
  have parsed := toOption_eq_some.mp hd
  simp only [Prod.mk.injEq, Option.map_eq_some_iff] at facts
  obtain ⟨selected, n, there, hattributes⟩ := facts
  obtain ⟨errors, reports, reported⟩ := ordering_reported_iff _ _ ["y", "x"] rule _ d 1 n
    (by decide) accepted rfl parsed there
  refine ⟨rule, d, errors, accepted, parsed, reports, reported.mpr ⟨selected, .inl ⟨"x", "y", ?_⟩⟩⟩
  rw [hattributes]
  decide

/-- One attribute alone is out of order when the list names it twice. -/
theorem check_repeatedName : ∃ rule d n errors,
    factory Pattern.engine (.data (.object
      [("rule::order", .array (["a", "a"].map .string))])) = .ok rule ∧
    Document.parse "<svg a='1'/>".toList = .ok d ∧ d.get? 0 = some n ∧ rule.Reports d errors ∧
    (∃ e ∈ errors, isAt 0 e = true ∧ IsOrdering e.1) ∧
    ¬ ∃ x y, [x, y].Sublist (n.attributes.map Prod.fst) ∧ x ∈ ["a", "a"] ∧ y ∈ ["a", "a"] ∧
      ["a", "a"].idxOf y < ["a", "a"].idxOf x := by
  obtain ⟨rule, accepted⟩ : ∃ rule, factory Pattern.engine (.data (.object
      [("rule::order", .array (["a", "a"].map .string))])) = .ok rule :=
    exists_ok_of_isOk (by decide +kernel)
  have facts : (Document.parse "<svg a='1'/>".toList).toOption.map (fun d =>
      (d.isElement 0, (d.get? 0).map fun n =>
        (n.attributes, (orderViolation ["a", "a"] n).isSome))) =
      some (true, some ([("a", "1")], true)) := by
    decide +kernel
  obtain ⟨d, hd, facts⟩ := Option.map_eq_some_iff.mp facts
  have parsed := toOption_eq_some.mp hd
  simp only [Prod.mk.injEq, Option.map_eq_some_iff] at facts
  obtain ⟨selected, n, there, hattributes, violation⟩ := facts
  obtain ⟨members', c, hoptions, hread, rfl⟩ := factory_eq_ok accepted
  cases hoptions
  refine ⟨_, d, n, errors c d, accepted, parsed, there, Rule.reports_ofErrors _ d, ?_, ?_⟩
  · exact (exists_ordering_iff (configures_of_readConfig (by decide) hread) parsed there).mpr
      ⟨selected, ["a", "a"], rfl, Option.isSome_iff_ne_none.mp violation⟩
  · rintro ⟨x, y, hsublist, -⟩
    rw [hattributes] at hsublist
    exact absurd hsublist.length_le (by simp)

end VectorLint.Attributes
