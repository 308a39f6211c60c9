/-
Rules that are configured by data. The factories of the built-in rules may
refuse options, but panic on none (`Orderly`), and a rule that comes out of
data records errors and nothing else; so a run over such rules has no
exceptions, no warnings and no logs (`run_data`).

Each error is that of an instance of `elm` or `attr`, and a node it is tied
to is an element that one of the instance's selectors matches
(`RuleInstance.Accounts`).
-/
import VectorLint.Proofs.Run.Instances
import VectorLint.Proofs.Selector.Lookup

namespace VectorLint

/-! ## Refusing without a panic -/

/-- A computation on options that comes to a result, or says what is invalid
about them. -/
def Orderly {α : Type} (x : Except Refusal α) : Prop :=
  ∀ r, x = .error r → ∃ rule message, r = .refused (.invalidConfig rule message)

namespace Orderly

variable {α β : Type} {x : Except Refusal α}

theorem ok (a : α) : Orderly (.ok a) := nofun

theorem refuse (rule message : String) : Orderly (VectorLint.refuse rule message : Except Refusal α) := by
  intro r h
  cases h
  exact ⟨rule, message, rfl⟩

theorem bind {f : α → Except Refusal β} (hx : Orderly x) (hf : ∀ a, Orderly (f a)) :
    Orderly (x >>= f) := by
  intro r h
  rcases bind_eq_error.mp h with h | ⟨a, -, h⟩
  · exact hx r h
  · exact hf a r h

theorem map (f : α → β) (hx : Orderly x) : Orderly (x.map f) := by
  cases x with
  | ok a => exact .ok (f a)
  | error e => exact fun r h => hx r (by cases h; rfl)

theorem mapM {f : α → Except Refusal β} (hf : ∀ a, Orderly (f a)) (xs : List α) :
    Orderly (xs.mapM f) := by
  intro r h
  obtain ⟨-, a, -, -, ha, -⟩ := exists_of_mapM_error h
  exact hf a r ha

theorem foldlM {f : β → α → Except Refusal β} (hf : ∀ b a, Orderly (f b a)) (xs : List α) (b : β) :
    Orderly (xs.foldlM f b) := by
  induction xs generalizing b with
  | nil => exact .ok b
  | cons a xs ih =>
    rw [List.foldlM_cons]
    exact (hf b a).bind ih

end Orderly

theorem orderly_members (rule : String) (options : Options) : Orderly (options.members rule) := by
  unfold Options.members
  split
  · exact .ok _
  · exact .refuse _ _
  · exact .refuse _ _

theorem orderly_readSelector (rule text : String) : Orderly (readSelector rule text) := by
  unfold readSelector
  split
  · exact .ok _
  · exact .refuse _ _

theorem members_eq_ok {rule : String} {options : Options} {members : List (String × Json.Value)}
    (h : options.members rule = .ok members) : options = .data (.object members) := by
  unfold Options.members at h
  split at h
  · cases h
    rfl
  · cases h
  · cases h

theorem readSelector_eq_ok {rule text : String} {s : Selector} :
    readSelector rule text = .ok s ↔ Selector.parse text = .ok s := by
  unfold readSelector
  split <;> rename_i h <;> simp [h, refuse]

/-! ## The rule `elm` -/

namespace Elements

theorem orderly_readCheck (member : String × Json.Value) : Orderly (readCheck member) := by
  refine (orderly_readSelector _ _).bind fun s => ?_
  split
  · exact .ok _
  · exact .refuse _ _

theorem orderly_factory (options : Options) : Orderly (factory options) :=
  (orderly_members _ _).bind fun members =>
    (Orderly.mapM orderly_readCheck members).bind fun _ => .ok _

theorem factory_eq_ok {options : Options} {rule : Rule} (h : factory options = .ok rule) :
    ∃ members checks, options = .data (.object members) ∧ members.mapM readCheck = .ok checks ∧
      rule = .ofErrors (errors checks) := by
  obtain ⟨members, hmembers, h⟩ := bind_eq_ok.mp h
  obtain ⟨checks, hchecks, h⟩ := bind_eq_ok.mp h
  cases h
  exact ⟨members, checks, members_eq_ok hmembers, hchecks, rfl⟩

theorem parse_of_readCheck {member : String × Json.Value} {c : Check} (h : readCheck member = .ok c) :
    Selector.parse member.1 = .ok c.selector := by
  obtain ⟨s, hs, h⟩ := bind_eq_ok.mp h
  split at h
  · cases h
    exact readSelector_eq_ok.mp hs
  · cases h

/-- Only matches of the selector of a check are reported with a node. -/
theorem exists_of_mem_errors {checks : List Check} {d : Document} {m : Message} {node : Option NodeRef}
    (h : (m, node) ∈ errors checks d) :
    node = none ∨ ∃ c ∈ checks, ∃ id ∈ d.select c.selector, node = d.ref? id := by
  obtain ⟨c, hc, h⟩ := List.mem_flatMap.mp h
  unfold Check.errors at h
  split at h
  · split at h
    · exact .inl (Prod.mk.inj (List.mem_singleton.mp h)).2
    · cases h
  · obtain ⟨id, hid, h⟩ := List.mem_map.mp h
    exact .inr ⟨c, hc, id, (List.mem_filter.mp hid).1, (Prod.mk.inj h).2.symm⟩
  · split at h
    · cases h
    · exact .inl (Prod.mk.inj (List.mem_singleton.mp h)).2
  · split at h
    · cases h
    · exact .inl (Prod.mk.inj (List.mem_singleton.mp h)).2

end Elements

/-! ## The rule `attr` -/

namespace Attributes

variable {engine : PatternEngine}

/-- What is read as a pattern lies between the first byte and the last. -/
theorem sliceBytes_patternText {s source : String} (h : patternText? s = some source) :
    Text.sliceBytes s.toList 1 (Text.byteLength s.toList - 1) = some source.toList := by
  unfold patternText? at h
  split at h
  · rename_i rest hs
    split at h
    · rename_i hlast
      cases h
      have hrest : rest = rest.dropLast ++ ['/'] := (List.dropLast_append_getLast? _ hlast).symm
      have hslice := Text.sliceBytes_append ['/'] rest.dropLast ['/']
      rw [List.append_assoc, ← hrest] at hslice
      have hwidth : Text.byteLength s.toList - 1 = Text.byteLength (['/'] ++ rest.dropLast) := by
        have hwhole : s.toList = ['/'] ++ rest.dropLast ++ ['/'] := by
          rw [hs, List.append_assoc, ← hrest]
          rfl
        rw [hwhole, Text.byteLength_append]
        rfl
      rw [hwidth, hs, String.toList_ofList]
      exact hslice
    · cases h
  · cases h

theorem orderly_readExpectation (name : String) (v : Json.Value) :
    Orderly (readExpectation engine name v) := by
  unfold readExpectation
  split
  · exact .ok _
  · exact .ok _
  · exact .ok _
  · split
    · exact .ok _
    · split
      · exact .ok _
      · exact .refuse _ _
  · split
    · exact .ok _
    · exact .refuse _ _
  · exact .refuse _ _

theorem orderly_read (draft : Draft) (member : String × Json.Value) :
    Orderly (draft.read engine member) := by
  obtain ⟨key, v⟩ := member
  unfold Draft.read
  dsimp only
  split
  · split
    · exact (orderly_readSelector _ _).map _
    · exact .refuse _ _
  · split
    · exact .ok _
    · exact .refuse _ _
  · exact .ok _
  · split
    · exact .refuse _ _
    · exact (orderly_readExpectation _ _).map _

theorem orderly_readOrder (draft : Draft) : Orderly draft.readOrder := by
  unfold Draft.readOrder
  split
  · exact .ok _
  · exact .ok _
  · exact .ok _
  · split
    · exact .ok _
    · exact .refuse _ _
  · exact .refuse _ _

/-- The selector that the members say, or else that of every element. -/
def Draft.selection (draft : Draft) : Except Refusal Selector :=
  match draft.selector with
  | some s => .ok s
  | none => readSelector ruleName "*"

theorem readConfig_eq (members : List (String × Json.Value)) :
    readConfig engine members = (do
      let draft ← members.foldlM (Draft.read engine) .empty
      let order ← draft.readOrder
      let selector ← draft.selection
      return ⟨selector, draft.attributes, draft.whitelist, order⟩) := by
  refine congrArg _ (funext fun draft => congrArg _ (funext fun order => ?_))
  unfold Draft.selection
  cases draft.selector <;> rfl

theorem orderly_readConfig (members : List (String × Json.Value)) :
    Orderly (readConfig engine members) := by
  rw [readConfig_eq]
  refine (Orderly.foldlM orderly_read members .empty).bind fun draft =>
    (orderly_readOrder draft).bind fun order => Orderly.bind ?_ fun _ => .ok _
  unfold Draft.selection
  split
  · exact .ok _
  · exact orderly_readSelector _ _

theorem orderly_factory (options : Options) : Orderly (factory engine options) :=
  (orderly_members _ _).bind fun members => (orderly_readConfig members).bind fun _ => .ok _

theorem factory_eq_ok {options : Options} {rule : Rule} (h : factory engine options = .ok rule) :
    ∃ members c, options = .data (.object members) ∧ readConfig engine members = .ok c ∧
      rule = .ofErrors (errors c) := by
  obtain ⟨members, hmembers, h⟩ := bind_eq_ok.mp h
  obtain ⟨c, hc, h⟩ := bind_eq_ok.mp h
  cases h
  exact ⟨members, c, members_eq_ok hmembers, hc, rfl⟩

theorem selector_of_read {draft next : Draft} {key : String} {v : Json.Value}
    (h : draft.read engine (key, v) = .ok next) :
    (∃ text s, (key, v) = ("rule::selector", .string text) ∧ Selector.parse text = .ok s ∧
      next.selector = some s) ∨
    (key ≠ "rule::selector" ∧ next.selector = draft.selector) := by
  unfold Draft.read at h
  dsimp only at h
  split at h
  · split at h
    · rename_i text
      obtain ⟨s, hs, rfl⟩ := map_eq_ok.mp h
      exact .inl ⟨text, s, rfl, readSelector_eq_ok.mp hs, rfl⟩
    · cases h
  · split at h
    · cases h
      exact .inr ⟨by decide, rfl⟩
    · cases h
  · cases h
    exact .inr ⟨by decide, rfl⟩
  · rename_i hkey _ _
    split at h
    · cases h
    · obtain ⟨e, -, rfl⟩ := map_eq_ok.mp h
      exact .inr ⟨hkey, rfl⟩

/-- The selector comes from a member that gives one, unless none does. -/
theorem selector_of_foldlM {members : List (String × Json.Value)} {draft last : Draft}
    (h : members.foldlM (Draft.read engine) draft = .ok last) :
    (∃ text s, ("rule::selector", .string text) ∈ members ∧ Selector.parse text = .ok s ∧
      last.selector = some s) ∨
    ((∀ v, ("rule::selector", v) ∉ members) ∧ last.selector = draft.selector) := by
  induction members generalizing draft with
  | nil =>
    cases h
    exact .inr ⟨by simp, rfl⟩
  | cons member members ih =>
    obtain ⟨key, v⟩ := member
    rw [List.foldlM_cons] at h
    obtain ⟨next, hnext, h⟩ := bind_eq_ok.mp h
    rcases ih h with ⟨text, s, hmem, hs, hlast⟩ | ⟨habsent, hlast⟩
    · exact .inl ⟨text, s, List.mem_cons_of_mem _ hmem, hs, hlast⟩
    · rcases selector_of_read hnext with ⟨text, s, hmember, hs, hselector⟩ | ⟨hkey, hselector⟩
      · exact .inl ⟨text, s, hmember ▸ List.mem_cons_self, hs, hlast.trans hselector⟩
      · refine .inr ⟨fun w hw => ?_, hlast.trans hselector⟩
        rcases List.mem_cons.mp hw with hw | hw
        · exact hkey (Prod.mk.inj hw).1.symm
        · exact habsent w hw

/-- Only matches of the selector are reported. -/
theorem exists_of_mem_errors {c : Config} {d : Document} {m : Message} {node : Option NodeRef}
    (h : (m, node) ∈ errors c d) : ∃ id ∈ d.select c.selector, node = d.ref? id := by
  obtain ⟨id, hid, h⟩ := List.mem_flatMap.mp h
  split at h
  · obtain ⟨_, -, h⟩ := List.mem_map.mp h
    exact ⟨id, hid, (Prod.mk.inj h).2.symm⟩
  · cases h

end Attributes

/-! ## What an instance reports -/

namespace RuleInstance

/-- A selector that the options of an instance give. -/
inductive Selects (i : RuleInstance) : Selector → Prop
  /-- The members of the options of `elm` are named by selectors. -/
  | member {members : List (String × Json.Value)} {text : String} {v : Json.Value} {s : Selector}
      (hname : i.name = Elements.ruleName) (hoptions : i.options = .data (.object members))
      (hmem : (text, v) ∈ members) (hparse : Selector.parse text = .ok s) : Selects i s
  | given {members : List (String × Json.Value)} {text : String} {s : Selector}
      (hname : i.name = Attributes.ruleName) (hoptions : i.options = .data (.object members))
      (hmem : ("rule::selector", .string text) ∈ members) (hparse : Selector.parse text = .ok s) :
      Selects i s
  /-- Without a selector `attr` is about all elements. -/
  | all {members : List (String × Json.Value)} {s : Selector}
      (hname : i.name = Attributes.ruleName) (hoptions : i.options = .data (.object members))
      (habsent : ∀ v, ("rule::selector", v) ∉ members) (hparse : Selector.parse "*" = .ok s) :
      Selects i s

/-- An error of an instance that data configures: by which rule it is, how it
reads, and where it is. -/
structure Accounts (i : RuleInstance) (d : Document) (e : Diagnostic) : Prop where
  rule : e.rule = i.name
  builtin : i.name = Elements.ruleName ∨ i.name = Attributes.ruleName
  severity : e.severity = .error
  message : e.message = i.name ++ ": " ++ " ".intercalate (e.raw.parts.map Message.partText)
  tied : i.name = Attributes.ruleName → e.node.isSome
  node : ∀ r ∈ e.node, r.document = d ∧ r.node.kind = .element ∧
    ∃ s, i.Selects s ∧ s.matches d r.id = true

variable {engine : PatternEngine} {i : RuleInstance} {members : List (String × Json.Value)}

theorem selects_of_mapM {checks : List Elements.Check} {c : Elements.Check}
    (hname : i.name = Elements.ruleName) (hoptions : i.options = .data (.object members))
    (h : members.mapM Elements.readCheck = .ok checks) (hc : c ∈ checks) : i.Selects c.selector := by
  obtain ⟨⟨text, v⟩, hmem, hread⟩ := exists_of_mem_mapM h hc
  exact .member hname hoptions hmem (Elements.parse_of_readCheck hread)

theorem selects_of_readConfig {c : Attributes.Config} (hname : i.name = Attributes.ruleName)
    (hoptions : i.options = .data (.object members))
    (h : Attributes.readConfig engine members = .ok c) : i.Selects c.selector := by
  rw [Attributes.readConfig_eq] at h
  obtain ⟨draft, hdraft, h⟩ := bind_eq_ok.mp h
  obtain ⟨order, -, h⟩ := bind_eq_ok.mp h
  obtain ⟨s, hs, h⟩ := bind_eq_ok.mp h
  cases h
  rcases Attributes.selector_of_foldlM hdraft with ⟨text, s', hmem, hparse, hlast⟩ | ⟨habsent, hlast⟩
  · rw [Attributes.Draft.selection, hlast] at hs
    cases hs
    exact .given hname hoptions hmem hparse
  · rw [Attributes.Draft.selection, hlast] at hs
    exact .all hname hoptions habsent (readSelector_eq_ok.mp hs)

end RuleInstance

namespace Document

variable {d : Document} {id : NodeId}

theorem exists_ref? (h : id < d.size) : ∃ r, d.ref? id = some r :=
  ⟨_, dif_pos h⟩

theorem of_ref?_eq_some {r : NodeRef} (h : d.ref? id = some r) :
    r.document = d ∧ r.id = id ∧ d.get? id = some r.node := by
  unfold ref? at h
  split at h
  · rename_i hid
    cases h
    exact ⟨rfl, rfl, Array.getElem?_eq_getElem hid⟩
  · cases h

theorem lt_of_mem_select {s : Selector} (h : id ∈ d.select s) : id < d.size :=
  lt_of_mem_descendants (List.mem_filter.mp (List.mem_filter.mp h).1).1

/-- A selected node is an element, and one that the selector matches. -/
theorem element_of_select {s : Selector} {r : NodeRef} (h : id ∈ d.select s) (hr : d.ref? id = some r) :
    r.document = d ∧ r.node.kind = .element ∧ s.matches d r.id = true := by
  obtain ⟨hdocument, hid, hnode⟩ := of_ref?_eq_some hr
  obtain ⟨helement, hmatch⟩ := List.mem_filter.mp h
  obtain ⟨n, hn, hel⟩ := isElement_iff.mp (List.mem_filter.mp helement).2
  obtain rfl : n = r.node := Option.some.inj (hn.symm.trans hnode)
  exact ⟨hdocument, Node.kind_of_isElement hel, hid ▸ hmatch⟩

end Document

/-! ## What a run reports -/

theorem Report.ofEvents_map_error (errors : List Diagnostic) :
    ofEvents (errors.map .error) = ⟨[], errors, [], []⟩ := by
  unfold ofEvents
  simp only [List.filterMap_map, Report.mk.injEq, List.filterMap_eq_nil_iff]
  refine ⟨fun _ _ => rfl, List.filterMap_some, fun _ _ => rfl, fun _ _ => rfl⟩

namespace Registry

variable {engine : PatternEngine}

theorem events_ofErrors {r : Registry} {i : RuleInstance} {d : Document} {context : Context}
    {errors : Document → List (Message × Option NodeRef)}
    (h : r.resolve i.name i.options = .ok (.ofErrors errors)) :
    r.events d context i =
      (errors d).map fun (m, node) => .error ⟨i.name, .error, m, node⟩ := by
  rw [events, h]
  show (Process.recordAll _ _).entries.map _ = _
  rw [Process.entries_recordAll]
  exact (congrArg _ (List.append_nil _)).trans List.map_map

theorem lookup_builtinWith (name : String) :
    (builtinWith engine).factories.lookup name =
      if name = "custom" then some customFactory
      else if name = Elements.ruleName then some Elements.factory
      else if name = Attributes.ruleName then some (Attributes.factory engine)
      else none := by
  rw [builtinWith, lookup_register, lookup_register, lookup_register]
  rfl

/-- Data comes to a rule through `elm` and `attr` only. -/
theorem factory_of_resolve_builtinWith {i : RuleInstance} {v : Json.Value} {rule : Rule}
    (hdata : i.options = .data v) (h : (builtinWith engine).resolve i.name i.options = .ok rule) :
    (i.name = Elements.ruleName ∧ Elements.factory i.options = .ok rule) ∨
    (i.name = Attributes.ruleName ∧ Attributes.factory engine i.options = .ok rule) := by
  obtain ⟨f, hf, hrule⟩ := resolve_eq_ok_iff.mp h
  rw [lookup_builtinWith] at hf
  split at hf
  · cases hf
    rw [hdata] at hrule
    cases hrule
  · split at hf
    · rename_i hname
      cases hf
      exact .inl ⟨hname, hrule⟩
    · split at hf
      · rename_i hname
        cases hf
        exact .inr ⟨hname, hrule⟩
      · cases hf

/-- The built-in factories do not panic. -/
theorem resolve_builtinWith_ne_failed (name : String) (options : Options) (rule : String)
    (p : Panic) : (builtinWith engine).resolve name options ≠ .error (.failed rule p) := by
  have horderly {f : Factory} (hf : (builtinWith engine).factories.lookup name = some f) :
      Orderly (f options) := by
    rw [lookup_builtinWith] at hf
    split at hf
    · cases hf
      cases options with
      | check rule => exact .ok rule
      | data v => exact .refuse _ _
    · split at hf
      · cases hf
        exact Elements.orderly_factory options
      · split at hf
        · cases hf
          exact Attributes.orderly_factory options
        · cases hf
  intro h
  cases (resolve_eq_error_iff (i := ⟨name, options⟩)).mp h with
  | refused hf hrefused =>
    obtain ⟨_, _, h⟩ := horderly hf _ hrefused
    cases h
  | panicked hf hpanicked =>
    obtain ⟨_, _, h⟩ := horderly hf _ hpanicked
    cases h

end Registry

namespace RuleInstance

variable {engine : PatternEngine} {i : RuleInstance} {d : Document} {v : Json.Value}

theorem accounts_elements {members : List (String × Json.Value)} {checks : List Elements.Check}
    (hname : i.name = Elements.ruleName) (hoptions : i.options = .data (.object members))
    (hread : members.mapM Elements.readCheck = .ok checks) {m : Message} {node : Option NodeRef}
    (h : (m, node) ∈ Elements.errors checks d) : i.Accounts d ⟨i.name, .error, m, node⟩ where
  rule := rfl
  builtin := .inl hname
  severity := rfl
  message := rfl
  tied hattr := absurd (hname.symm.trans hattr) (by decide)
  node r hr := by
    rcases Elements.exists_of_mem_errors h with rfl | ⟨c, hc, id, hid, rfl⟩
    · cases hr
    · obtain ⟨hdocument, hkind, hmatch⟩ := Document.element_of_select hid hr
      exact ⟨hdocument, hkind, c.selector, selects_of_mapM hname hoptions hread hc, hmatch⟩

theorem accounts_attributes {members : List (String × Json.Value)} {c : Attributes.Config}
    (hname : i.name = Attributes.ruleName) (hoptions : i.options = .data (.object members))
    (hread : Attributes.readConfig engine members = .ok c) {m : Message} {node : Option NodeRef}
    (h : (m, node) ∈ Attributes.errors c d) : i.Accounts d ⟨i.name, .error, m, node⟩ := by
  obtain ⟨id, hid, rfl⟩ := Attributes.exists_of_mem_errors h
  obtain ⟨r, hr⟩ := Document.exists_ref? (Document.lt_of_mem_select hid)
  obtain ⟨hdocument, hkind, hmatch⟩ := Document.element_of_select hid hr
  exact {
    rule := rfl
    builtin := .inr hname
    severity := rfl
    message := rfl
    tied := fun _ => hr ▸ rfl
    node := fun r' hr' => by
      obtain rfl : r = r' := Option.some.inj (hr.symm.trans hr')
      exact ⟨hdocument, hkind, c.selector, selects_of_readConfig hname hoptions hread, hmatch⟩ }

/-- An instance that data configures records errors and nothing else. -/
theorem events_of_data (engine : PatternEngine) (d : Document) (context : Context)
    (hdata : i.options = .data v) :
    ∃ errors : List Diagnostic,
      (Registry.builtinWith engine).events d context i = errors.map .error ∧
        ∀ e ∈ errors, i.Accounts d e := by
  cases h : (Registry.builtinWith engine).resolve i.name i.options with
  | error e => exact ⟨[], by rw [Registry.events, h]; rfl, List.forall_mem_nil _⟩
  | ok rule =>
    rcases Registry.factory_of_resolve_builtinWith hdata h with ⟨hname, hrule⟩ | ⟨hname, hrule⟩
    · obtain ⟨members, checks, hoptions, hread, rfl⟩ := Elements.factory_eq_ok hrule
      refine ⟨(Elements.errors checks d).map fun (m, node) => ⟨i.name, .error, m, node⟩,
        (Registry.events_ofErrors h).trans List.map_map.symm, fun e he => ?_⟩
      obtain ⟨⟨m, node⟩, hmem, rfl⟩ := List.mem_map.mp he
      exact accounts_elements hname hoptions hread hmem
    · obtain ⟨members, c, hoptions, hread, rfl⟩ := Attributes.factory_eq_ok hrule
      refine ⟨(Attributes.errors c d).map fun (m, node) => ⟨i.name, .error, m, node⟩,
        (Registry.events_ofErrors h).trans List.map_map.symm, fun e he => ?_⟩
      obtain ⟨⟨m, node⟩, hmem, rfl⟩ := List.mem_map.mp he
      exact accounts_attributes hname hoptions hread hmem

end RuleInstance

namespace Linter

/-- **Data does no harm.** With the built-in rules, whatever the engine, and no
other options than data, a run over a document records errors alone, each to
the account of its instance. No factory panics, nor does a number lead out of
the document while a selector is matched, nor a pattern end within a
character. -/
theorem run_data (engine : PatternEngine) (l : Linter) (read : ReadText) (input : String)
    (d : Document) (builtin : l.registry = .builtinWith engine)
    (data : ∀ i ∈ l.settings.instances, ∃ v, i.options = .data v)
    (parsed : Document.parse (resolveInput read input).1 = .ok d) :
    (∃ errorsOf : RuleInstance → List Diagnostic,
      (l.run read input).outcome = .ok ⟨[], l.settings.instances.flatMap errorsOf, [], []⟩ ∧
      ∀ i ∈ l.settings.instances,
        ((l.only i).run read input).outcome = .ok ⟨[], errorsOf i, [], []⟩ ∧
        ∀ e ∈ errorsOf i, i.Accounts d e) ∧
    (∀ i ∈ l.settings.instances, ∀ rule p,
      l.registry.resolve i.name i.options ≠ .error (.failed rule p)) ∧
    (∀ s, d.trySelect s = .ok (d.select s)) ∧
    ∀ text source, Attributes.patternText? text = some source →
      Text.sliceBytes text.toList 1 (Text.byteLength text.toList - 1) = some source.toList := by
  refine ⟨?_, fun i _ rule p => builtin ▸ Registry.resolve_builtinWith_ne_failed _ _ rule p,
    d.trySelect_eq_ok, fun text source => Attributes.sliceBytes_patternText⟩
  let errorsOf (i : RuleInstance) :=
    (l.registry.events d (resolveInput read input).2 i).filterMap Event.error?
  have hevents {i : RuleInstance} (hi : i ∈ l.settings.instances) :
      l.registry.events d (resolveInput read input).2 i = (errorsOf i).map .error ∧
        ∀ e ∈ errorsOf i, i.Accounts d e := by
    obtain ⟨v, hv⟩ := data i hi
    obtain ⟨errors, herrors, haccounts⟩ :=
      RuleInstance.events_of_data engine d (resolveInput read input).2 hv
    have herrorsOf : errorsOf i = errors := by
      simp only [errorsOf, builtin, herrors]
      exact congrArg Report.errors (Report.ofEvents_map_error errors)
    rw [herrorsOf, builtin]
    exact ⟨herrors, haccounts⟩
  refine ⟨errorsOf, ?_, fun i hi => ⟨?_, (hevents hi).2⟩⟩
  · rw [outcome_run_eq parsed, ← Report.ofEvents_map_error, List.map_flatMap]
    exact congrArg _ (congrArg _ (List.flatMap_congr fun i hi => (hevents hi).1))
  · rw [outcome_run_only parsed, (hevents hi).1, Report.ofEvents_map_error]

/-- Settings of data, of which the last options of `attr` are refused. -/
def dataSettings : Linter where
  settings := (RuleSettings.empty.set "elm" (.one (.data (.object
    [("svg", .bool true), ("svg > g", .bool false)])))).set "attr" (.many
      [.data (.object [("rule::selector", .string "svg"), ("role", .string "/img/")]),
        .data (.string "role")])
  registry := .builtin
  listeners := []

theorem run_dataSettings :
    dataSettings.registry = .builtin ∧
    (∀ i ∈ dataSettings.settings.instances, ∃ v, i.options = .data v) ∧
    ∃ d errors, Document.parse (resolveInput (fun _ => none) "<svg><g/></svg>").1 = .ok d ∧
      (dataSettings.run (fun _ => none) "<svg><g/></svg>").outcome = .ok ⟨[], errors, [], []⟩ ∧
      errors.map Diagnostic.message =
        ["elm: Element disallowed by 'svg > g'", "attr: Expected attribute 'role', didn't find it"] ∧
      ∀ e ∈ errors, ∃ i ∈ dataSettings.settings.instances, i.Accounts d e := by
  have data : ∀ i ∈ dataSettings.settings.instances, ∃ v, i.options = .data v := by
    rintro i (_ | ⟨_, _ | ⟨_, _ | ⟨_, hi⟩⟩⟩)
    · exact ⟨_, rfl⟩
    · exact ⟨_, rfl⟩
    · exact ⟨_, rfl⟩
    · cases hi
  obtain ⟨d, parsed⟩ :
      ∃ d, Document.parse (resolveInput (fun _ => none) "<svg><g/></svg>").1 = .ok d := ⟨_, rfl⟩
  obtain ⟨⟨errorsOf, outcome, accounts⟩, -⟩ :=
    run_data Pattern.engine dataSettings (fun _ => none) "<svg><g/></svg>" d rfl data parsed
  have messages : (dataSettings.run (fun _ => none) "<svg><g/></svg>").outcome.toOption.map
      (fun report => report.errors.map Diagnostic.message) =
        some ["elm: Element disallowed by 'svg > g'",
          "attr: Expected attribute 'role', didn't find it"] := by
    decide +kernel
  rw [outcome] at messages
  refine ⟨rfl, data, d, _, parsed, outcome, Option.some.inj messages, fun e he => ?_⟩
  obtain ⟨i, hi, he⟩ := List.mem_flatMap.mp he
  exact ⟨i, hi, (accounts i hi).2 e he⟩

end Linter

end VectorLint
