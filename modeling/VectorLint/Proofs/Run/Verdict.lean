/-
The verdict of a run. What a linter says of an input are the exceptions and
then the errors that its instances record, in the order of the instances, or
the failure to read the input as a document (`lint_verdict`).

Warnings and logs have no part in it. Scripts that differ in steps that only
remark something ask to record the same exceptions and errors in the same
order, whether they end, fail or panic (`counted_process`); so linters that
differ in such scripts come to the same issues.
-/
import Mathlib.Data.List.Forall2
import VectorLint.Proofs.Run.Instances

namespace VectorLint

/-! ## What counts -/

/-- Exceptions and errors count for a verdict. -/
def Event.counts : Event → Bool
  | .exception _ | .error _ => true
  | .warning _ | .log _ => false

def Entry.counts : Entry → Bool
  | .exception _ => true
  | .diagnostic severity _ _ => severity = .error

theorem Entry.counts_event (rule : String) (entry : Entry) :
    (entry.event rule).counts = entry.counts := by
  cases entry with
  | exception reason => rfl
  | diagnostic severity message node => cases severity <;> rfl

theorem Entry.filter_map_event (rule : String) (entries : List Entry) :
    (entries.map (event rule)).filter Event.counts = (entries.filter counts).map (event rule) := by
  rw [List.filter_map]
  congr 2
  funext entry
  exact entry.counts_event rule

namespace Report

theorem verdict_congr {a b : Report} (hx : a.exceptions = b.exceptions) (he : a.errors = b.errors) :
    a.verdict = b.verdict := by
  have hpassed : a.passed = b.passed := by simp only [passed, hx, he]
  simp only [verdict, hpassed, hx, he]

/-- What does not count can be left out. -/
theorem verdict_ofEvents_filter (events : List Event) :
    (ofEvents (events.filter Event.counts)).verdict = (ofEvents events).verdict := by
  refine verdict_congr ?_ ?_ <;>
    simp only [ofEvents, List.filterMap_filter] <;>
    refine List.filterMap_congr fun e _ => ?_ <;>
    cases e <;> rfl

theorem verdict_eq_ok_iff {r : Report} : r.verdict = .ok () ↔ r.exceptions = [] ∧ r.errors = [] := by
  simp [verdict, passed]

theorem verdict_eq_error_iff {r : Report} {issues : List Issue} :
    r.verdict = .error issues ↔
      issues ≠ [] ∧ issues = r.exceptions.map .exception ++ r.errors.map .error := by
  unfold verdict passed
  split
  · rename_i h
    simp only [Bool.and_eq_true, List.isEmpty_iff] at h
    simp [h, eq_comm]
  · rename_i h
    simp only [Bool.and_eq_true, List.isEmpty_iff] at h
    constructor
    · rintro ⟨⟩
      exact ⟨by simpa using h, rfl⟩
    · rintro ⟨-, rfl⟩
      rfl

end Report

/-! ## Scripts -/

/-- A step that warns or logs. -/
def Step.isRemark : Step → Bool
  | .report .warning _ _ | .report .log _ _ | .filepath | .sourceLength => true
  | _ => false

/-- The script without what it only remarks. -/
def Script.terse (s : Script) : Script :=
  s.filter fun step => !step.isRemark

theorem Script.terse_cons (step : Step) (s : Script) :
    Script.terse (step :: s) = if step.isRemark then s.terse else step :: s.terse := by
  unfold terse
  cases h : step.isRemark <;> simp [h]

/-- Remarks change nothing about what a script has recorded that counts. -/
theorem Script.counted_process (d : Document) (context : Context) (deferred : Bool)
    (found : List Finding) (s : Script) :
    (process d context deferred found s).entries.filter Entry.counts =
      (process d context deferred found s.terse).entries.filter Entry.counts := by
  induction s generalizing deferred found with
  | nil => rfl
  | cons step s ih =>
    rw [terse_cons]
    cases step with
    | report severity message at? =>
      cases severity <;> simp [process, Step.isRemark, Process.entries, Entry.counts, ih]
    | exception reason => exact congrArg (Entry.exception reason :: ·) (ih ..)
    | query selector message =>
      simp only [process, Step.isRemark, Bool.false_eq_true, if_false]
      cases d.query selector with
      | error e => rfl
      | ok ids => simp only [Process.entries_recordAll, List.filter_append, ih]
    | filepath | sourceLength =>
      simp [process, Step.isRemark, Process.entries, logEntry, Entry.counts, ih]
    | finding message at? | defer => exact ih ..
    | fail chain | panic p => rfl
    | yield => cases deferred <;> exact ih ..

/-! ## Linters that differ in remarks -/

/-- Rules that agree on what counts. -/
def Rule.Alike (a b : Rule) : Prop :=
  ∀ d context, (a.check d context).entries.filter Entry.counts =
    (b.check d context).entries.filter Entry.counts

theorem Script.alike_toRule {s t : Script} (h : s.terse = t.terse) : s.toRule.Alike t.toRule := by
  intro d context
  show (process d context false [] s).entries.filter _ = (process d context false [] t).entries.filter _
  rw [counted_process, h, ← counted_process]

/-- The same options, or scripts that differ in what they only remark. -/
inductive Options.Alike : Options → Options → Prop
  | same (o : Options) : Alike o o
  | script {s t : Script} (h : s.terse = t.terse) : Alike (.check s.toRule) (.check t.toRule)

/-- Both give rules that agree, or both give none. -/
def ResultsAlike {ε : Type} : Except ε Rule → Except ε Rule → Prop
  | .ok a, .ok b => a.Alike b
  | .error _, .error _ => True
  | _, _ => False

/-- A factory that does not look into a script it is given: it hands it on,
or ignores it, or refuses all of them. Any other could follow the script
itself, and make of its remarks what it likes. -/
def Factory.Opaque (f : Factory) : Prop :=
  ∀ o p, o.Alike p → ResultsAlike (f o) (f p)

/-- A registry of such factories. -/
def Registry.Opaque (r : Registry) : Prop :=
  ∀ name f, r.factories.lookup name = some f → f.Opaque

namespace Registry

theorem opaque_empty : empty.Opaque := by
  intro name f h
  cases h

theorem Opaque.register {r : Registry} (h : r.Opaque) {f : Factory} (hf : f.Opaque)
    (name : String) : (r.register name f).Opaque := by
  intro other g hg
  rw [lookup_register] at hg
  split at hg
  · cases hg
    exact hf
  · exact h other g hg

end Registry

theorem Rule.Alike.refl (a : Rule) : a.Alike a := fun _ _ => rfl

theorem ResultsAlike.refl {ε : Type} (x : Except ε Rule) : ResultsAlike x x := by
  cases x with
  | error e => trivial
  | ok a => exact Rule.Alike.refl a

/-- A factory that refuses every rule given directly is opaque. -/
theorem Factory.opaque_of_refuses {f : Factory} (h : ∀ rule, ∃ e, f (.check rule) = .error e) :
    f.Opaque := by
  intro o p hop
  cases hop with
  | same o => exact .refl _
  | @script s t hst =>
    obtain ⟨e, he⟩ := h s.toRule
    obtain ⟨e', he'⟩ := h t.toRule
    rw [he, he']
    trivial

theorem opaque_customFactory : Factory.Opaque customFactory := by
  intro o p hop
  cases hop with
  | same o => exact .refl _
  | script h => exact Script.alike_toRule h

namespace Registry

/-- The built-in factories take rules from nowhere but `custom`, which hands
them on. -/
theorem opaque_builtinWith (engine : PatternEngine) : (builtinWith engine).Opaque := by
  have hattr : Factory.Opaque (Attributes.factory engine) :=
    Factory.opaque_of_refuses fun _ => ⟨_, rfl⟩
  have helm : Factory.Opaque Elements.factory := Factory.opaque_of_refuses fun _ => ⟨_, rfl⟩
  exact ((opaque_empty.register hattr _).register helm _).register opaque_customFactory _

theorem Opaque.resultsAlike {r : Registry} (h : r.Opaque) (name : String) {o p : Options}
    (hop : o.Alike p) : ResultsAlike (r.resolve name o) (r.resolve name p) := by
  unfold resolve
  split
  · trivial
  · rename_i f hf
    have hresults := h name f hf o p hop
    revert hresults
    cases f o with
    | ok a =>
      cases f p with
      | ok b => exact id
      | error e => exact False.elim
    | error e =>
      cases f p with
      | ok b => exact False.elim
      | error e' => intro _; cases e <;> cases e' <;> trivial

end Registry

/-- Instances of one rule, with options that are alike. -/
structure RuleInstance.Alike (i j : RuleInstance) : Prop where
  name : i.name = j.name
  options : i.options.Alike j.options

theorem Registry.Opaque.counted_events {r : Registry} (h : r.Opaque) {i j : RuleInstance}
    (hij : i.Alike j) (d : Document) (context : Context) :
    (r.events d context i).filter Event.counts = (r.events d context j).filter Event.counts := by
  obtain ⟨hname, hoptions⟩ := hij
  have hresults := h.resultsAlike i.name hoptions
  simp only [events, ← hname]
  revert hresults
  cases r.resolve i.name i.options with
  | ok a =>
    cases r.resolve i.name j.options with
    | ok b => exact fun hab => by rw [Entry.filter_map_event, hab d context, ← Entry.filter_map_event]
    | error e => exact False.elim
  | error e =>
    cases r.resolve i.name j.options with
    | ok b => exact False.elim
    | error e' => exact fun _ => rfl

theorem Registry.Opaque.counted_flatMap {r : Registry} (h : r.Opaque) {is js : List RuleInstance}
    (halike : List.Forall₂ RuleInstance.Alike is js) (d : Document) (context : Context) :
    (is.flatMap (r.events d context)).filter Event.counts =
      (js.flatMap (r.events d context)).filter Event.counts := by
  induction halike with
  | nil => rfl
  | cons hij _ ih =>
    rw [List.flatMap_cons, List.flatMap_cons, List.filter_append, List.filter_append, ih,
      h.counted_events hij]

namespace Linter

variable {l l' : Linter}

theorem lint_eq_verdict {read : ReadText} {input : String} {d : Document}
    (h : Document.parse (resolveInput read input).1 = .ok d) :
    l.lint read input = (Report.ofEvents
      (l.settings.instances.flatMap (l.registry.events d (resolveInput read input).2))).verdict := by
  rw [lint, issues, outcome_run_eq h]

theorem lint_of_alike (hregistry : l'.registry = l.registry) (hsealed : l.registry.Opaque)
    (halike : List.Forall₂ RuleInstance.Alike l.settings.instances l'.settings.instances)
    (read : ReadText) (input : String) : l'.lint read input = l.lint read input := by
  cases h : Document.parse (resolveInput read input).1 with
  | error e => rw [lint, lint, issues, issues, outcome_run_error h, outcome_run_error h]
  | ok d =>
    rw [lint_eq_verdict h, lint_eq_verdict h, hregistry, ← Report.verdict_ofEvents_filter,
      ← hsealed.counted_flatMap halike, Report.verdict_ofEvents_filter]

/-- Both linters come to the same issues, and those are what a callback of
either is handed. -/
structure Concur (l l' : Linter) (read : ReadText) (input : String) : Prop where
  lint : l'.lint read input = l.lint read input
  lintWith : ∀ {α : Type} (callback : Except (List Issue) Unit → α),
    l'.lintWith read input callback = (l.lint read input, callback (l.lint read input))

theorem Concur.of_lint {read : ReadText} {input : String}
    (h : l'.lint read input = l.lint read input) : l.Concur l' read input :=
  ⟨h, fun callback => by rw [Linter.lintWith, h]⟩

/-- **The verdict is what fails, and no remark changes it.** Linting comes to
the parse failure alone, or else to the exceptions and then the errors of the
instances, and passes if there are none. Scripts with other remarks in them
give the same issues, with the built-in factories on any engine and with all
others that do not look into scripts; and the callback is handed the issues
that are returned. -/
theorem lint_verdict (l : Linter) (read : ReadText) (input : String) :
    (∀ failure, (l.run read input).outcome = .error failure →
      l.lint read input = .error [.parse failure]) ∧
    (∀ report, (l.run read input).outcome = .ok report →
      (l.lint read input = .ok () ↔ report.exceptions = [] ∧ report.errors = []) ∧
      ∃ solo : RuleInstance → Report,
        (∀ i, ((l.only i).run read input).outcome = .ok (solo i)) ∧
        ∀ issues, l.lint read input = .error issues → issues ≠ [] ∧
          issues = l.settings.instances.flatMap (fun i => (solo i).exceptions.map .exception) ++
            l.settings.instances.flatMap (fun i => (solo i).errors.map .error)) ∧
    (∀ {α : Type} (callback : Except (List Issue) Unit → α),
      l.lintWith read input callback = (l.lint read input, callback (l.lint read input))) ∧
    (∀ (engine : PatternEngine) (settings : RuleSettings) (listeners : List Listener),
      List.Forall₂ RuleInstance.Alike l.settings.instances settings.instances →
      Concur ⟨l.settings, .builtinWith engine, l.listeners⟩
        ⟨settings, .builtinWith engine, listeners⟩ read input) ∧
    (∀ engine, (Registry.builtinWith engine).Opaque) ∧
    ∀ l' : Linter, l'.registry = l.registry → l.registry.Opaque →
      List.Forall₂ RuleInstance.Alike l.settings.instances l'.settings.instances →
      l.Concur l' read input := by
  refine ⟨fun failure h => by rw [lint, issues, h], fun report h => ?_, fun _ => rfl,
    fun engine settings listeners halike => .of_lint ?_, Registry.opaque_builtinWith,
    fun l' hregistry hsealed halike =>
      .of_lint (lint_of_alike hregistry hsealed halike read input)⟩
  · cases hparse : Document.parse (resolveInput read input).1 with
    | error e =>
      rw [outcome_run_error hparse] at h
      cases h
    | ok d =>
      have hlint : l.lint read input = report.verdict := by rw [lint, issues, h]
      rw [outcome_run_eq hparse, Except.ok.injEq] at h
      subst h
      refine ⟨hlint ▸ Report.verdict_eq_ok_iff, _, fun i => outcome_run_only hparse i,
        fun issues hissues => ?_⟩
      obtain ⟨hne, rfl⟩ := Report.verdict_eq_error_iff.mp (hlint.symm.trans hissues)
      refine ⟨hne, ?_⟩
      simp only [Report.ofEvents, List.filterMap_flatMap, List.map_flatMap]
  · refine lint_of_alike ?_ (Registry.opaque_builtinWith engine) halike read input
    rfl

/-- The suspending scripts with other remarks: some more, and one less. -/
def chattyScripts : Linter where
  settings := RuleSettings.empty.set "custom" (.many
    [.check (Script.toRule [.filepath, .report .error (.ofText "slow") none, .defer, .yield,
      .report .warning (.ofText "waiting") none, .yield, .finding (.ofText "late") none,
      .report .log (.ofText "done") none]),
    .check (Script.toRule [.defer, .yield, .sourceLength, .panic (.text "lost")])])
  registry := suspendingScripts.registry
  listeners := []

theorem lint_chattyScripts :
    suspendingScripts.registry.Opaque ∧
    List.Forall₂ RuleInstance.Alike suspendingScripts.settings.instances
      chattyScripts.settings.instances ∧
    chattyScripts.lint (fun _ => none) "<svg/>" = suspendingScripts.lint (fun _ => none) "<svg/>" ∧
    (∃ issues, chattyScripts.lint (fun _ => none) "<svg/>" = .error issues ∧ issues ≠ [] ∧
      issues.map Issue.message = ["custom: lost", "custom: slow", "custom: late"]) ∧
    (∃ issues, ∀ settings ∈ [suspendingScripts.settings, chattyScripts.settings],
      lint ⟨settings, .builtin, []⟩ (fun _ => none) "<svg/>" = .error issues ∧
      issues.map Issue.message = ["custom: lost", "custom: slow", "custom: late"]) ∧
    ∃ failure, chattyScripts.lint (fun _ => none) "<svg>" = .error [.parse failure] := by
  have opaqueCustom : suspendingScripts.registry.Opaque :=
    Registry.opaque_empty.register opaque_customFactory _
  have alike : List.Forall₂ RuleInstance.Alike suspendingScripts.settings.instances
      chattyScripts.settings.instances :=
    .cons ⟨rfl, .script rfl⟩ (.cons ⟨rfl, .script rfl⟩ .nil)
  obtain ⟨-, -, -, builtin, -, agree⟩ := lint_verdict suspendingScripts (fun _ => none) "<svg/>"
  obtain ⟨-, judged, -⟩ := lint_verdict chattyScripts (fun _ => none) "<svg/>"
  obtain ⟨refused, -⟩ := lint_verdict chattyScripts (fun _ => none) "<svg>"
  obtain ⟨-, solo, -, listed⟩ := judged _ rfl
  obtain ⟨nonempty, -⟩ := listed _ rfl
  have same := (builtin Pattern.engine chattyScripts.settings [] alike).lint
  have found : ∃ issues, lint ⟨suspendingScripts.settings, .builtin, []⟩ (fun _ => none) "<svg/>" =
      .error issues ∧ issues.map Issue.message = ["custom: lost", "custom: slow", "custom: late"] :=
    ⟨_, rfl, by rfl⟩
  obtain ⟨issues, hissues, messages⟩ := found
  refine ⟨opaqueCustom, alike, (agree chattyScripts rfl opaqueCustom alike).lint,
    ⟨_, rfl, nonempty, by rfl⟩, ⟨issues, fun settings hs => ?_⟩, _, refused _ rfl⟩
  simp only [List.mem_cons, List.not_mem_nil, or_false] at hs
  obtain rfl | rfl := hs
  · exact ⟨hissues, messages⟩
  · exact ⟨same.trans hissues, messages⟩

end Linter

end VectorLint
