/-
Instances that give no rule. A run goes on as if they were not configured:
it comes to the same report and the same journal, but for one warning for
each of them, which stand before anything that a rule does (`run_skipping`).
-/
import Mathlib.Data.List.Forall2
import VectorLint.Proofs.Except
import VectorLint.Proofs.Run.Instances
import VectorLint.Proofs.Run.Listening

namespace VectorLint

namespace Registry

/-- Whether an instance gives a rule. -/
def resolves (r : Registry) (i : RuleInstance) : Bool :=
  match r.resolve i.name i.options with
  | .ok _ => true
  | .error _ => false

theorem resolves_eq_false_iff {r : Registry} {i : RuleInstance} :
    r.resolves i = false ↔ ∃ e, r.Refuses i e := by
  simp only [← resolve_eq_error_iff, resolves]
  cases r.resolve i.name i.options <;> simp

end Registry

/-! ## Fewer instances -/

/-- The setting with the options that pass a test. -/
def Setting.keep (test : Options → Bool) : Setting → Setting
  | .disabled => .disabled
  | .one o => if test o then .one o else .disabled
  | .many os => .many (os.filter test)

theorem Setting.options_keep (test : Options → Bool) (s : Setting) :
    (s.keep test).options = s.options.filter test := by
  cases s with
  | disabled | many => rfl
  | one o => cases h : test o <;> simp [keep, options, h]

namespace RuleSettings

/-- The settings with the instances that pass a test. -/
def keep (test : RuleInstance → Bool) (r : RuleSettings) : RuleSettings where
  entries := r.entries.map fun (name, setting) => (name, setting.keep fun o => test ⟨name, o⟩)
  distinct := by
    rw [List.map_map]
    exact r.distinct

theorem instances_keep (test : RuleInstance → Bool) (r : RuleSettings) :
    (r.keep test).instances = r.instances.filter test := by
  unfold instances keep
  rw [List.flatMap_map, List.filter_flatMap]
  congr 1
  funext ⟨name, setting⟩
  show (setting.keep _).options.map _ = (setting.options.map _).filter test
  rw [Setting.options_keep, List.filter_map]
  rfl

end RuleSettings

namespace Linter

/-- The line logged for an instance that is refused. -/
def refusalNotice (e : ResolutionError) : Notice :=
  .logged .warn (e.message ++ ". It will be ignored")

theorem resolveAll_filter (registry : Registry) (instances : List RuleInstance) :
    resolveAll registry (instances.filter registry.resolves) =
      ((resolveAll registry instances).1, []) := by
  induction instances with
  | nil => rfl
  | cons i instances ih =>
    rw [List.filter_cons, Registry.resolves]
    cases h : registry.resolve i.name i.options with
    | ok rule => simp only [if_true, resolveAll, h, ih]
    | error e => simp only [Bool.false_eq_true, if_false, resolveAll, h, ih]

/-- There is a warning for each instance that is refused, in order. -/
theorem warnings_resolveAll (registry : Registry) (instances : List RuleInstance) :
    List.Forall₂ (fun i notice => ∃ e, registry.Refuses i e ∧ notice = refusalNotice e)
      (instances.filter fun i => !registry.resolves i) (resolveAll registry instances).2 := by
  induction instances with
  | nil => exact .nil
  | cons i instances ih =>
    rw [List.filter_cons, Registry.resolves]
    cases h : registry.resolve i.name i.options with
    | ok rule =>
      simp only [Bool.not_true, Bool.false_eq_true, if_false, resolveAll, h]
      exact ih
    | error e =>
      simp only [Bool.not_false, if_true, resolveAll, h]
      exact .cons ⟨e, Registry.resolve_eq_error_iff.mp h, rfl⟩ ih

/-- The linter with other settings. -/
def withSettings (l : Linter) (settings : RuleSettings) : Linter :=
  { l with settings }

/-- What a run of a document logs and tells once it has warned of the
instances that it leaves out. -/
def proceedings (l : Linter) (d : Document) (context : Context) : List Notice :=
  let polled := Task.runSchedule (Task.roundRobin (l.tasks d context)) (l.tasks d context)
  let report := Task.mergedReport polled.1
  .logged .debug ("Running " ++ (l.tasks d context).length.repr ++ " rule instance(s)") ::
    polled.2 [] ++
    [.logged .debug ("Finished with " ++ report.exceptions.length.repr ++ " exception(s), " ++
      report.errors.length.repr ++ " error(s), " ++ report.warnings.length.repr ++ " warning(s)")]

theorem journal_run {l : Linter} {read : ReadText} {input : String} {d : Document}
    (h : Document.parse (resolveInput read input).1 = .ok d) :
    (l.run read input).journal = .logged .debug ("Linting " ++ displayName input) ::
      (resolveAll l.registry l.settings.instances).2 ++
      l.proceedings d (resolveInput read input).2 := by
  simp only [run, h, runDocument, proceedings, tasks, List.length_map, List.cons_append,
    List.append_assoc]

variable {l : Linter} {kept : RuleSettings}

theorem tasks_withSettings (h : kept.instances = l.settings.instances.filter l.registry.resolves)
    (d : Document) (context : Context) :
    (l.withSettings kept).tasks d context = l.tasks d context := by
  show (resolveAll l.registry kept.instances).1.map (startTask l.listeners d context) = _
  rw [h, resolveAll_filter]
  rfl

/-- **Instances that give no rule are passed over.** -/
theorem run_skipping (l : Linter) (read : ReadText) (input : String) :
    (l.settings.keep l.registry.resolves).instances =
        l.settings.instances.filter l.registry.resolves ∧
    (∀ i, l.registry.resolves i = false ↔ ∃ e, l.registry.Refuses i e) ∧
    ∀ kept : RuleSettings, kept.instances = l.settings.instances.filter l.registry.resolves →
      ((l.withSettings kept).run read input).outcome = (l.run read input).outcome ∧
      told ((l.withSettings kept).run read input).journal = told (l.run read input).journal ∧
      ∀ d context, Document.parse (resolveInput read input).1 = .ok d →
        (resolveInput read input).2 = context →
        ∃ opening warnings,
          ((l.withSettings kept).run read input).journal = opening :: l.proceedings d context ∧
          (l.run read input).journal = opening :: warnings ++ l.proceedings d context ∧
          List.Forall₂ (fun i notice => ∃ e, l.registry.Refuses i e ∧ notice = refusalNotice e)
            (l.settings.instances.filter fun i => !l.registry.resolves i) warnings := by
  refine ⟨l.settings.instances_keep _, fun i => Registry.resolves_eq_false_iff, fun kept h => ?_⟩
  have htasks := tasks_withSettings h
  cases hparse : Document.parse (resolveInput read input).1 with
  | error e =>
    have hrun (l : Linter) : l.run read input =
        ⟨.error (.ofError input e), [.logged .debug ("Linting " ++ displayName input)]⟩ := by
      simp only [run, hparse]
    rw [hrun, hrun]
    exact ⟨rfl, rfl, fun d context hd => by cases hd⟩
  | ok d =>
    have hkept : (resolveAll (l.withSettings kept).registry
        (l.withSettings kept).settings.instances).2 = [] := by
      show (resolveAll l.registry kept.instances).2 = []
      rw [h, resolveAll_filter]
    have hproceedings (context : Context) :
        (l.withSettings kept).proceedings d context = l.proceedings d context := by
      simp only [proceedings, htasks]
    refine ⟨by rw [outcome_run hparse, outcome_run hparse, htasks], ?_, ?_⟩
    · rw [journal_run hparse, journal_run hparse, hkept, hproceedings, told_append, told_append,
        told_logged, told_logged, told_resolveAll]
      rfl
    · rintro d' context hd rfl
      cases hd
      refine ⟨_, _, ?_, journal_run hparse, warnings_resolveAll l.registry l.settings.instances⟩
      rw [journal_run hparse, hkept, hproceedings]
      rfl

/-- Settings of which one instance can be used: the others have no factory,
are refused, or make their factory panic. -/
def patchySettings : Linter where
  settings := ((RuleSettings.empty.set "nope" (.one (.data (.bool true)))).set "custom" (.many
    [.data .null, .check (Script.toRule [.report .error (.ofText "seen") none]),
      .data (.string "elm")])).set "boom" (.one (.data .null))
  registry := (Registry.empty.register "custom" customFactory).register "boom" fun _ =>
    .error (.panicked .other)
  listeners := [⟨"calm", fun _ => none⟩]

def patchySettingsKept : RuleSettings :=
  RuleSettings.empty.set "custom" (.one (.check (Script.toRule [.report .error (.ofText "seen") none])))

theorem run_patchySettings :
    patchySettingsKept.instances =
      patchySettings.settings.instances.filter patchySettings.registry.resolves ∧
    Document.parse (resolveInput (fun _ => none) "<svg/>").1 = .ok bareDocument ∧
    ((patchySettings.withSettings patchySettingsKept).run (fun _ => none) "<svg/>").outcome =
      (patchySettings.run (fun _ => none) "<svg/>").outcome ∧
    told ((patchySettings.withSettings patchySettingsKept).run (fun _ => none) "<svg/>").journal =
      told (patchySettings.run (fun _ => none) "<svg/>").journal ∧
    ∃ opening warnings,
      ((patchySettings.withSettings patchySettingsKept).run (fun _ => none) "<svg/>").journal =
        opening :: patchySettings.proceedings bareDocument ⟨none⟩ ∧
      (patchySettings.run (fun _ => none) "<svg/>").journal =
        opening :: warnings ++ patchySettings.proceedings bareDocument ⟨none⟩ ∧
      warnings.length = 4 ∧
      warned (patchySettings.run (fun _ => none) "<svg/>").journal = [
        "Unknown rule (nope). It will be ignored",
        "Invalid config for rule (custom): expected a check function, got null. It will be ignored",
        "Invalid config for rule (custom): expected a check function, got \"elm\". " ++
          "It will be ignored",
        "Failed to load rule (boom): rule panicked. It will be ignored"] ∧
      ∃ report, (patchySettings.run (fun _ => none) "<svg/>").outcome = .ok report ∧
        report.exceptions.map RuleException.message = [] ∧
        report.errors.map Diagnostic.message = ["custom: seen"] ∧
        (told (patchySettings.run (fun _ => none) "<svg/>").journal).map (fun e => e.2.2.message) =
          ["custom: seen"] := by
  have kept : patchySettingsKept.instances =
      patchySettings.settings.instances.filter patchySettings.registry.resolves := by rfl
  have parsed : Document.parse (resolveInput (fun _ => none) "<svg/>").1 = .ok bareDocument := by rfl
  obtain ⟨-, -, passed⟩ := run_skipping patchySettings (fun _ => none) "<svg/>"
  obtain ⟨outcome, heard, journals⟩ := passed patchySettingsKept kept
  obtain ⟨opening, warnings, without, whole, refused⟩ := journals bareDocument ⟨none⟩ parsed rfl
  have items : (patchySettings.run (fun _ => none) "<svg/>").outcome.toOption.map (fun r =>
      (r.exceptions.map RuleException.message, r.errors.map Diagnostic.message)) =
        some ([], ["custom: seen"]) := by
    decide +kernel
  obtain ⟨report, hreport, hitems⟩ := Option.map_eq_some_iff.mp items
  obtain ⟨exceptions, errors⟩ := Prod.mk.inj hitems
  exact ⟨kept, parsed, outcome, heard, opening, warnings, without, whole, refused.length_eq.symm,
    by decide +kernel, report, toOption_eq_some.mp hreport, exceptions, errors, by decide +kernel⟩

end Linter

end VectorLint
