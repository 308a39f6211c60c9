/-
What a run reports, instance by instance. Each instance adds what its rule
asks to record on the document, and one that gives no rule adds nothing
(`outcome_run_eq`). So what holds of a report is looked for in the entries of
one process, without tasks and schedules; its severities are a first case
(`graded_of_run`).

An instance gives no rule when no factory has its name, or the factory refuses
its options or panics on them (`Registry.Refuses`).
-/
import VectorLint.Proofs.Run.Interleaving

namespace VectorLint

/-! ## What resolving comes to -/

namespace Registry

/-- Why an instance gives no rule. -/
inductive Refuses (r : Registry) (i : RuleInstance) : ResolutionError → Prop
  | missing (h : r.factories.lookup i.name = none) : Refuses r i (.unknown i.name)
  | refused {f : Factory} {e : ResolutionError} (h : r.factories.lookup i.name = some f)
      (hf : f i.options = .error (.refused e)) : Refuses r i e
  | panicked {f : Factory} {p : Panic} (h : r.factories.lookup i.name = some f)
      (hf : f i.options = .error (.panicked p)) : Refuses r i (.failed i.name p)

variable {r : Registry} {i : RuleInstance}

theorem resolve_eq_ok_iff {name : String} {options : Options} {rule : Rule} :
    r.resolve name options = .ok rule ↔
      ∃ f, r.factories.lookup name = some f ∧ f options = .ok rule := by
  unfold resolve
  cases r.factories.lookup name with
  | none => simp
  | some f =>
    cases hf : f options with
    | ok rule' => simp [hf]
    | error refusal => cases refusal <;> simp [hf]

theorem resolve_eq_error_iff {e : ResolutionError} :
    r.resolve i.name i.options = .error e ↔ r.Refuses i e := by
  unfold resolve
  constructor
  · intro h
    split at h
    · rename_i hmissing
      cases h
      exact .missing hmissing
    · rename_i f hf
      cases hresult : f i.options with
      | ok rule => simp [hresult] at h
      | error refusal =>
        cases refusal with
        | refused e' =>
          simp only [hresult, Except.error.injEq] at h
          exact h ▸ .refused hf hresult
        | panicked p =>
          simp only [hresult, Except.error.injEq] at h
          exact h ▸ .panicked hf hresult
  · rintro (h | ⟨h, hf⟩ | ⟨h, hf⟩)
    · simp [h]
    · simp [h, hf]
    · simp [h, hf]

end Registry

/-! ## What is recorded -/

theorem Process.entries_recordAll (entries : List Entry) (next : Process) :
    (recordAll entries next).entries = entries ++ next.entries := by
  induction entries with
  | nil => rfl
  | cons entry entries ih => exact congrArg (entry :: ·) ih

/-- An event has the severity that its kind stands for. -/
def Event.Graded : Event → Prop
  | .exception _ => True
  | .error d => d.severity = .error
  | .warning d => d.severity = .warning
  | .log d => d.severity = .log

theorem Entry.graded_event (rule : String) (entry : Entry) : (entry.event rule).Graded := by
  cases entry with
  | exception reason => trivial
  | diagnostic severity message node => cases severity <;> rfl

/-- What an instance records of a document. -/
def Registry.events (r : Registry) (d : Document) (context : Context) (i : RuleInstance) :
    List Event :=
  match r.resolve i.name i.options with
  | .ok rule => (rule.check d context).entries.map (Entry.event i.name)
  | .error _ => []

theorem Registry.graded_of_mem_events {r : Registry} {d : Document} {context : Context}
    {i : RuleInstance} {event : Event} (h : event ∈ r.events d context i) : event.Graded := by
  unfold events at h
  split at h
  · obtain ⟨entry, -, rfl⟩ := List.mem_map.mp h
    exact entry.graded_event i.name
  · cases h

/-- Each sequence of a report has the severity that it stands for. -/
structure Report.Graded (r : Report) : Prop where
  errors : ∀ d ∈ r.errors, d.severity = .error
  warnings : ∀ d ∈ r.warnings, d.severity = .warning
  logs : ∀ d ∈ r.logs, d.severity = .log

theorem Report.graded_ofEvents {events : List Event} (h : ∀ e ∈ events, e.Graded) :
    (ofEvents events).Graded := by
  constructor <;> intro d hd <;> obtain ⟨event, hevent, hproject⟩ := List.mem_filterMap.mp hd <;>
    cases event <;> cases hproject <;> exact h _ hevent

namespace Linter

variable {l : Linter} {read : ReadText} {input : String} {d : Document}

theorem outcome_startTask (listeners : List Listener) (d : Document) (context : Context)
    (rule : String × Rule) :
    (startTask listeners d context rule).outcome =
      (rule.2.check d context).entries.map (Entry.event rule.1) := rfl

theorem flatMap_outcome_tasks (l : Linter) (d : Document) (context : Context) :
    (l.tasks d context).flatMap Task.outcome =
      l.settings.instances.flatMap (l.registry.events d context) := by
  rw [tasks, resolveAll_fst, List.map_flatMap, List.flatMap_assoc]
  congr 1
  funext i
  simp only [resolveAll, Registry.events]
  cases l.registry.resolve i.name i.options with
  | error e => rfl
  | ok rule => exact (List.append_nil _).trans (outcome_startTask l.listeners d context (i.name, rule))

/-- **The report of a run** is what its instances record, one behind the
other. -/
theorem outcome_run_eq (h : Document.parse (resolveInput read input).1 = .ok d) :
    (l.run read input).outcome = .ok (.ofEvents
      (l.settings.instances.flatMap (l.registry.events d (resolveInput read input).2))) := by
  rw [outcome_run h, flatMap_outcome_tasks]

theorem outcome_run_only (h : Document.parse (resolveInput read input).1 = .ok d)
    (i : RuleInstance) :
    ((l.only i).run read input).outcome =
      .ok (.ofEvents (l.registry.events d (resolveInput read input).2 i)) := by
  have hone : (l.only i).settings.instances = [i] := rfl
  rw [outcome_run_eq h, hone, List.flatMap_singleton]
  rfl

theorem outcome_run_error {e : ParseError}
    (h : Document.parse (resolveInput read input).1 = .error e) :
    (l.run read input).outcome = .error (.ofError input e) := by
  simp only [run, h]

theorem graded_of_run {report : Report} (h : (l.run read input).outcome = .ok report) :
    report.Graded := by
  cases hparse : Document.parse (resolveInput read input).1 with
  | error e =>
    rw [outcome_run_error hparse] at h
    cases h
  | ok d =>
    rw [outcome_run_eq hparse] at h
    cases h
    refine Report.graded_ofEvents fun event hevent => ?_
    obtain ⟨i, -, hi⟩ := List.mem_flatMap.mp hevent
    exact Registry.graded_of_mem_events hi

end Linter

end VectorLint
