/-
The order of the keys of options. Whether a member can be read does not depend
on the members before it, so options are accepted or not whatever the order of
their keys. What `elm` exempts is a matter of all keys together, and what
`attr` finds wrong with an element is known without their order, unless it is
their order that the attributes have to follow.

`interchangeable_of_perm`: options that differ in the order of their keys come
to the same errors, in another order.
-/
import Mathlib.Data.List.Perm.Basic
import VectorLint.Proofs.Rule.Attributes
import VectorLint.Proofs.Rule.Elements

namespace VectorLint

/-- With distinct names the order of entries does not count. -/
theorem Entries.lookup_perm {α : Type} {entries entries' : List (String × α)}
    (perm : entries.Perm entries') (distinct : (entries.map Prod.fst).Nodup) (name : String) :
    entries.lookup name = entries'.lookup name := by
  induction perm with
  | nil => rfl
  | cons entry _ ih =>
    obtain ⟨n, v⟩ := entry
    rw [List.map_cons, List.nodup_cons] at distinct
    rw [lookup_cons, lookup_cons, ih distinct.2]
  | swap a b entries =>
    obtain ⟨m, v⟩ := a
    obtain ⟨n, w⟩ := b
    have hne : n ≠ m := by
      rw [List.map_cons, List.nodup_cons] at distinct
      exact List.ne_of_not_mem_cons distinct.1
    simp only [lookup_cons]
    split <;> split <;> simp_all
  | trans perm _ ih ih' =>
    exact (ih distinct).trans (ih' ((perm.map Prod.fst).nodup_iff.mp distinct))

/-- The report of a rule that is run under a name. -/
def Rule.report (rule : Rule) (name : String) (d : Document) (context : Context) : Report :=
  .ofEvents ((rule.check d context).entries.map (Entry.event name))

theorem Rule.Reports.report_eq {rule : Rule} {d : Document}
    {errors : List (Message × Option NodeRef)} (h : rule.Reports d errors) (name : String)
    (context : Context) :
    rule.report name d context =
      ⟨[], errors.map fun (m, node) => ⟨name, .error, m, node⟩, [], []⟩ := by
  rw [report, h context, Process.entries_recordAll, ← Report.ofEvents_map_error, List.map_map]
  exact congrArg Report.ofEvents ((congrArg _ (List.append_nil _)).trans List.map_map)

theorem Rule.Reports.verdict_eq_ok_iff {rule : Rule} {d : Document}
    {errors : List (Message × Option NodeRef)} (h : rule.Reports d errors) (name : String)
    (context : Context) : (rule.report name d context).verdict = .ok () ↔ errors = [] := by
  rw [h.report_eq, Report.verdict, Report.passed]
  cases errors <;> simp

/-- Two answers of a factory that are the same but for the order of the errors
that a rule reports. -/
structure Interchangeable (x y : Except Refusal Rule) : Prop where
  accepted : (∃ rule, x = .ok rule) ↔ ∃ rule, y = .ok rule
  reports : ∀ rule rule', x = .ok rule → y = .ok rule' →
    ∀ source d, Document.parse source = .ok d →
      (∃ errors errors', rule.Reports d errors ∧ rule'.Reports d errors' ∧ errors.Perm errors') ∧
      ∀ name context, (rule.report name d context).verdict = .ok () ↔
        (rule'.report name d context).verdict = .ok ()

/-- Rules whose errors are the same in another order have the same verdict. -/
theorem Interchangeable.of_perm {x y : Except Refusal Rule}
    (accepted : (∃ rule, x = .ok rule) ↔ ∃ rule, y = .ok rule)
    (perm : ∀ rule rule', x = .ok rule → y = .ok rule' →
      ∀ source d, Document.parse source = .ok d →
        ∃ errors errors', rule.Reports d errors ∧ rule'.Reports d errors' ∧ errors.Perm errors') :
    Interchangeable x y where
  accepted := accepted
  reports rule rule' hx hy source d parsed := by
    obtain ⟨errors, errors', hreports, hreports', hperm⟩ := perm rule rule' hx hy source d parsed
    refine ⟨⟨errors, errors', hreports, hreports', hperm⟩, fun name context => ?_⟩
    rw [hreports.verdict_eq_ok_iff, hreports'.verdict_eq_ok_iff]
    exact ⟨fun hnil => List.Perm.nil_eq (hnil ▸ hperm) ▸ rfl,
      fun hnil => List.Perm.eq_nil (hnil ▸ hperm)⟩

variable {members members' : List (String × Json.Value)}

/-! ## The rule `elm` -/

namespace Elements

theorem exists_factory_iff :
    (∃ rule, factory (.data (.object members)) = .ok rule) ↔
      ∀ m ∈ members, ∃ c, readCheck m = .ok c := by
  rw [← exists_mapM_ok_iff]
  constructor
  · rintro ⟨rule, hrule⟩
    obtain ⟨members', checks, hoptions, hread, -⟩ := factory_eq_ok hrule
    cases hoptions
    exact ⟨checks, hread⟩
  · rintro ⟨checks, hread⟩
    exact ⟨_, bind_eq_ok.mpr ⟨members, rfl, bind_eq_ok.mpr ⟨checks, hread, rfl⟩⟩⟩

/-- The errors of a key depend on the other keys through what these exempt. -/
theorem memberErrors_perm (perm : members.Perm members') (d : Document) (key : String)
    (v : Json.Value) : memberErrors d members key v = memberErrors d members' key v := by
  have hexempts (id : NodeId) : exempts d members id = exempts d members' id := perm.any_eq
  simp only [memberErrors, hexempts]

theorem interchangeable (perm : members.Perm members') :
    Interchangeable (factory (.data (.object members))) (factory (.data (.object members'))) := by
  refine .of_perm ?_ fun rule rule' haccepted haccepted' source d parsed => ?_
  · rw [exists_factory_iff, exists_factory_iff]
    exact forall_congr' fun m => imp_congr_left perm.mem_iff
  · obtain ⟨_, checks, hoptions, hread, rfl⟩ := factory_eq_ok haccepted
    cases hoptions
    obtain ⟨_, checks', hoptions, hread', rfl⟩ := factory_eq_ok haccepted'
    cases hoptions
    refine ⟨_, _, Rule.reports_ofErrors _ d, Rule.reports_ofErrors _ d, ?_⟩
    rw [errors_eq_flatMap parsed hread, errors_eq_flatMap parsed hread']
    simp only [memberErrors_perm perm]
    exact perm.flatMap_right _

end Elements

/-! ## The rule `attr` -/

namespace Attributes

variable {engine : PatternEngine} {c c' : Config} {n : Node} {d : Document} {draft : Draft}

/-- A member that can be taken in. -/
def Readable (engine : PatternEngine) (m : String × Json.Value) : Prop :=
  ∃ next, Draft.empty.read engine m = .ok next

/-- The members before do not decide whether a member can be taken in. -/
theorem exists_read_iff (draft : Draft) (m : String × Json.Value) :
    (∃ next, draft.read engine m = .ok next) ↔ Readable engine m := by
  obtain ⟨key, v⟩ := m
  unfold Readable Draft.read
  dsimp only
  split
  · split
    · simp only [map_eq_ok]
      exact ⟨fun ⟨_, s, hs, _⟩ => ⟨_, s, hs, rfl⟩, fun ⟨_, s, hs, _⟩ => ⟨_, s, hs, rfl⟩⟩
    · rfl
  · split
    · exact iff_of_true ⟨_, rfl⟩ ⟨_, rfl⟩
    · rfl
  · exact iff_of_true ⟨_, rfl⟩ ⟨_, rfl⟩
  · split
    · rfl
    · simp only [map_eq_ok]
      exact ⟨fun ⟨_, e, he, _⟩ => ⟨_, e, he, rfl⟩, fun ⟨_, e, he, _⟩ => ⟨_, e, he, rfl⟩⟩

theorem exists_foldlM_iff : (∃ last, members.foldlM (Draft.read engine) draft = .ok last) ↔
    ∀ m ∈ members, Readable engine m := by
  induction members generalizing draft with
  | nil => exact iff_of_true ⟨draft, rfl⟩ (List.forall_mem_nil _)
  | cons m members ih =>
    rw [List.forall_mem_cons, ← exists_read_iff draft, List.foldlM_cons]
    constructor
    · rintro ⟨last, h⟩
      obtain ⟨next, hnext, hlast⟩ := bind_eq_ok.mp h
      exact ⟨⟨next, hnext⟩, ih.mp ⟨last, hlast⟩⟩
    · rintro ⟨⟨next, hnext⟩, hrest⟩
      obtain ⟨last, hlast⟩ := ih.mpr hrest
      exact ⟨last, bind_eq_ok.mpr ⟨next, hnext, hlast⟩⟩

/-- The values that `rule::order` can have. -/
inductive IsOrder : Json.Value → Prop
  | bool (b : Bool) : IsOrder (.bool b)
  | names {items : List Json.Value} {names : List String}
      (h : items.mapM Json.Value.asString? = some names) : IsOrder (.array items)

theorem exists_readOrder_iff :
    (∃ order, draft.readOrder = .ok order) ↔ ∀ v, draft.order = some v → IsOrder v := by
  unfold Draft.readOrder
  split
  · rename_i hnone
    exact iff_of_true ⟨_, rfl⟩ (by simp [hnone])
  · rename_i hfalse
    refine iff_of_true ⟨_, rfl⟩ fun v hv => ?_
    cases hfalse.symm.trans hv
    exact .bool false
  · rename_i htrue
    refine iff_of_true ⟨_, rfl⟩ fun v hv => ?_
    cases htrue.symm.trans hv
    exact .bool true
  · rename_i items harray
    split
    · rename_i hnames
      refine iff_of_true ⟨_, rfl⟩ fun v hv => ?_
      cases harray.symm.trans hv
      exact .names hnames
    · rename_i hnames
      refine iff_of_false nofun fun hall => ?_
      cases hall _ harray with
      | names h => cases hnames.symm.trans h
  · rename_i v hfalse htrue harray hv
    refine iff_of_false nofun fun hall => ?_
    cases hall v hv with
    | bool b => cases b <;> simp_all
    | names => simp_all

theorem exists_selection (draft : Draft) : ∃ s, draft.selection = .ok s := by
  unfold Draft.selection
  split
  · exact ⟨_, rfl⟩
  · exact ⟨_, readSelector_eq_ok.mpr Document.parse_star⟩

/-- Options are accepted if each member can be read and the order is one. -/
theorem exists_readConfig_iff (distinct : (members.map Prod.fst).Nodup) :
    (∃ c, readConfig engine members = .ok c) ↔
      (∀ m ∈ members, Readable engine m) ∧ ∀ v, members.lookup "rule::order" = some v → IsOrder v := by
  have horder {last : Draft} (h : members.foldlM (Draft.read engine) .empty = .ok last) :
      last.order = members.lookup "rule::order" := by
    rw [(reads_of_foldlM h).order, Entries.lookup_reverse distinct]
  rw [readConfig_eq]
  constructor
  · rintro ⟨c, h⟩
    obtain ⟨last, hlast, h⟩ := bind_eq_ok.mp h
    obtain ⟨order, hread, -⟩ := bind_eq_ok.mp h
    rw [← horder hlast]
    exact ⟨exists_foldlM_iff.mp ⟨last, hlast⟩, exists_readOrder_iff.mp ⟨order, hread⟩⟩
  · rintro ⟨hreadable, hall⟩
    obtain ⟨last, hlast⟩ := exists_foldlM_iff.mpr hreadable
    rw [← horder hlast] at hall
    obtain ⟨order, hread⟩ := exists_readOrder_iff.mpr hall
    obtain ⟨s, hs⟩ := exists_selection last
    exact ⟨_, bind_eq_ok.mpr ⟨last, hlast, bind_eq_ok.mpr ⟨order, hread,
      bind_eq_ok.mpr ⟨s, hs, rfl⟩⟩⟩⟩

theorem exists_factory_iff : (∃ rule, factory engine (.data (.object members)) = .ok rule) ↔
    ∃ c, readConfig engine members = .ok c := by
  constructor
  · rintro ⟨rule, hrule⟩
    obtain ⟨members', c, hoptions, hread, -⟩ := factory_eq_ok hrule
    cases hoptions
    exact ⟨c, hread⟩
  · rintro ⟨c, hread⟩
    exact ⟨_, bind_eq_ok.mpr ⟨members, rfl, bind_eq_ok.mpr ⟨c, hread, rfl⟩⟩⟩

section

variable (perm : members.Perm members') (distinct : (members.map Prod.fst).Nodup)
include perm

theorem mem_listed_perm {m : String × Json.Value} : m ∈ listed members ↔ m ∈ listed members' :=
  (perm.filter _).mem_iff

theorem mem_listedNames_perm {name : String} :
    name ∈ listedNames members ↔ name ∈ listedNames members' :=
  ((perm.filter _).map Prod.fst).mem_iff

include distinct

theorem complaint_perm {a : String × Message} :
    Complaint engine members n a ↔ Complaint engine members' n a := by
  have hlookup := Entries.lookup_perm perm distinct "rule::whitelist"
  constructor
  · rintro (⟨hlisted, h⟩ | ⟨hwhitelist, hname, hunlisted⟩)
    · exact .mismatch ((mem_listed_perm perm).mp hlisted) h
    · exact .unlisted (hlookup ▸ hwhitelist) hname (mt (mem_listedNames_perm perm).mpr hunlisted)
  · rintro (⟨hlisted, h⟩ | ⟨hwhitelist, hname, hunlisted⟩)
    · exact .mismatch ((mem_listed_perm perm).mpr hlisted) h
    · exact .unlisted (hlookup ▸ hwhitelist) hname (mt (mem_listedNames_perm perm).mp hunlisted)

theorem selects_perm (d : Document) : selects d members = selects d members' := by
  funext id
  rw [selects, selects, Entries.lookup_perm perm distinct]

/-- Only where the order of the keys counts does it matter. -/
theorem orderOf_perm (unordered : members.lookup "rule::order" ≠ some (.bool true)) :
    orderOf members = orderOf members' := by
  rw [Entries.lookup_perm perm distinct] at unordered
  unfold orderOf
  rw [Entries.lookup_perm perm distinct]
  split
  · contradiction
  · rfl
  · rfl

/-- What is wrong with an element: the same complaints, each of them once, and
the same ordering. -/
theorem violations_perm (h : Configures engine members c) (h' : Configures engine members' c')
    (unordered : members.lookup "rule::order" ≠ some (.bool true))
    (hnode : (n.attributes.map Prod.fst).Nodup) : (c.violations n).Perm (c'.violations n) := by
  have distinct' : (members'.map Prod.fst).Nodup := (perm.map Prod.fst).nodup_iff.mp distinct
  have hnamed : (c.named n).Perm (c'.named n) := by
    rw [List.perm_ext_iff_of_nodup (nodup_named h distinct hnode).of_map
      (nodup_named h' distinct' hnode).of_map]
    intro a
    rw [mem_named_iff h, mem_named_iff h', complaint_perm perm distinct]
  rw [violations_eq, violations_eq, h.order, h'.order, orderOf_perm perm distinct unordered]
  exact (hnamed.map Prod.snd).append_right _

theorem interchangeable (unordered : members.lookup "rule::order" ≠ some (.bool true)) :
    Interchangeable (factory engine (.data (.object members)))
      (factory engine (.data (.object members'))) := by
  have distinct' : (members'.map Prod.fst).Nodup := (perm.map Prod.fst).nodup_iff.mp distinct
  refine .of_perm ?_ fun rule rule' haccepted haccepted' source d parsed => ?_
  · rw [exists_factory_iff, exists_factory_iff, exists_readConfig_iff distinct,
      exists_readConfig_iff distinct', Entries.lookup_perm perm distinct]
    exact and_congr_left' (forall_congr' fun m => imp_congr_left perm.mem_iff)
  · obtain ⟨_, c, hoptions, hread, rfl⟩ := factory_eq_ok haccepted
    cases hoptions
    obtain ⟨_, c', hoptions, hread', rfl⟩ := factory_eq_ok haccepted'
    cases hoptions
    have h := configures_of_readConfig distinct hread
    have h' := configures_of_readConfig distinct' hread'
    refine ⟨_, _, Rule.reports_ofErrors _ d, Rule.reports_ofErrors _ d, ?_⟩
    rw [errors_eq_flatMap h parsed, errors_eq_flatMap h' parsed, ← selects_perm perm distinct]
    refine List.Perm.flatMap_left _ fun id hid => List.Perm.map _ ?_
    have hselects := (List.mem_filter.mp hid).2
    unfold Config.messages
    cases hn : d.get? id with
    | none => exact .refl _
    | some n =>
      exact violations_perm perm distinct h h' unordered (nodup_of_selects parsed hselects hn)

end

end Attributes

/-- **The order of the keys does not matter** in the options of `elm`, nor in
those of `attr` unless attributes have to stand in that order: permuted
options are accepted if they were, and report the same errors of the same
nodes, though in another order; so the verdict is the same. -/
theorem interchangeable_of_perm (engine : PatternEngine)
    (members members' : List (String × Json.Value)) (distinct : (members.map Prod.fst).Nodup)
    (perm : members.Perm members') :
    Interchangeable (Elements.factory (.data (.object members)))
        (Elements.factory (.data (.object members'))) ∧
      (members.lookup "rule::order" ≠ some (.bool true) →
        Interchangeable (Attributes.factory engine (.data (.object members)))
          (Attributes.factory engine (.data (.object members')))) :=
  ⟨Elements.interchangeable perm, Attributes.interchangeable perm distinct⟩

/-- The messages of the rule of options on a text, if both can be read. -/
def Factory.messages? (factory : Factory) (members : List (String × Json.Value)) (text : String) :
    Option (List String) := do
  let rule ← (factory (.data (.object members))).toOption
  let d ← (Document.parse text.toList).toOption
  return (rule.report "" d ⟨none⟩).errors.map fun e => e.raw.text

/-- Keys that both rules can read, as selectors and as attributes. -/
def twoKeys : List (String × Json.Value) :=
  [("g", .bool false), ("rect", .bool true)]

theorem interchangeable_twoKeys :
    (twoKeys.map Prod.fst).Nodup ∧ twoKeys.Perm twoKeys.reverse ∧
    twoKeys.lookup "rule::order" ≠ some (.bool true) ∧
    Interchangeable (Elements.factory (.data (.object twoKeys)))
      (Elements.factory (.data (.object twoKeys.reverse))) ∧
    Interchangeable (Attributes.factory Pattern.engine (.data (.object twoKeys)))
      (Attributes.factory Pattern.engine (.data (.object twoKeys.reverse))) ∧
    Factory.messages? Elements.factory twoKeys "<svg g='1'><g rect='2'/></svg>" =
      some ["Element disallowed by 'g'", "Expected 'rect', none found"] ∧
    Factory.messages? Elements.factory twoKeys.reverse "<svg g='1'><g rect='2'/></svg>" =
      some ["Expected 'rect', none found", "Element disallowed by 'g'"] ∧
    Factory.messages? (Attributes.factory Pattern.engine) twoKeys
        "<svg g='1'><g rect='2'/></svg>" =
      some ["Attribute 'g' is disallowed", "Expected attribute 'rect', didn't find it"] ∧
    Factory.messages? (Attributes.factory Pattern.engine) twoKeys.reverse
        "<svg g='1'><g rect='2'/></svg>" =
      some ["Expected attribute 'rect', didn't find it", "Attribute 'g' is disallowed"] := by
  have distinct : (twoKeys.map Prod.fst).Nodup := by decide
  have perm : twoKeys.Perm twoKeys.reverse := (List.reverse_perm twoKeys).symm
  have unordered : twoKeys.lookup "rule::order" ≠ some (.bool true) := nofun
  obtain ⟨elements, attributes⟩ :=
    interchangeable_of_perm Pattern.engine twoKeys twoKeys.reverse distinct perm
  exact ⟨distinct, perm, unordered, elements, attributes unordered, by decide +kernel,
    by decide +kernel, by decide +kernel, by decide +kernel⟩

end VectorLint
