/-
Interleaving: in whatever order the tasks of a run are polled, once all have
ended the report is what the instances report when each runs alone, one after
the other.

The invariant is a task's outcome, all that it will have recorded when it has
ended: a poll moves events from what is left to what is recorded and leaves
the outcome as it is. That the rounds of a run come to an end is a count of
turns, one fewer after each poll.
-/
import VectorLint.Rule.Script
import VectorLint.Run.Linter

namespace VectorLint

/-- What a process asks to record on its way to the end, suspended or not. -/
def Process.entries : Process → List Entry
  | .record entry next => entry :: next.entries
  | .suspend next => next.entries
  | .finish findings => findings.map Task.findingEntry
  | .fail failure => [.exception failure.message]

namespace Reporter

theorem recorded_record (r : Reporter) (entry : Entry) :
    (r.record entry).1 = { r with recorded := entry.event r.name :: r.recorded } := rfl

theorem recorded_recordAll (r : Reporter) (entries : List Entry) :
    (r.recordAll entries).1 =
      { r with recorded := (entries.map (Entry.event r.name)).reverse ++ r.recorded } := by
  induction entries generalizing r with
  | nil => rfl
  | cons entry entries ih => simp [recordAll, ih, recorded_record]

end Reporter

namespace Task

/-- Everything a task will have recorded when it has ended, the oldest first. -/
def outcome (t : Task) : List Event :=
  t.reporter.recorded.reverse ++
    (match t.rest with
      | none => []
      | some process => process.entries.map (Entry.event t.reporter.name))

theorem outcome_advance (r : Reporter) (p : Process) :
    (advance r p).1.outcome = outcome ⟨r, some p⟩ := by
  induction p generalizing r with
  | record entry next ih =>
    simp only [advance]
    rw [ih, r.recorded_record]
    simp [outcome, Process.entries]
  | suspend next ih => rfl
  | finish findings => simp [advance, outcome, Process.entries, r.recorded_recordAll]
  | fail failure => simp [advance, outcome, Process.entries, r.recorded_record]

theorem outcome_poll (t : Task) : t.poll.1.outcome = t.outcome := by
  obtain ⟨r, rest⟩ := t
  cases rest with
  | none => rfl
  | some process => exact outcome_advance r process

/-- The turns that a task still takes after a poll. -/
theorem turns_poll (t : Task) : t.poll.1.turns = t.turns - 1 := by
  obtain ⟨r, rest⟩ := t
  cases rest with
  | none => rfl
  | some process =>
    show (advance r process).1.turns = process.suspensions + 1 - 1
    rw [Nat.add_sub_cancel]
    induction process generalizing r with
    | record entry next ih => simp only [advance]; rw [ih]; rfl
    | suspend next ih => rfl
    | finish findings => rfl
    | fail failure => rfl

theorem isDone_iff_turns (t : Task) : t.isDone = true ↔ t.turns = 0 := by
  obtain ⟨r, rest⟩ := t
  cases rest <;> simp [isDone, turns]

/-! ## Schedules -/

theorem getElem?_pollAt (i j : Nat) (tasks : List Task) :
    (pollAt i tasks).1[j]? = if i = j then tasks[j]?.map (·.poll.1) else tasks[j]? := by
  unfold pollAt
  split
  · rename_i h
    split
    · rename_i hij
      subst hij
      simp [h]
    · rfl
  · rename_i t h
    simp only [List.getElem?_set]
    split
    · rename_i hij
      subst hij
      obtain ⟨hlt, rfl⟩ := List.getElem?_eq_some_iff.mp h
      simp [hlt]
    · rfl

theorem map_outcome_pollAt (i : Nat) (tasks : List Task) :
    (pollAt i tasks).1.map outcome = tasks.map outcome := by
  refine List.ext_getElem? fun j => ?_
  simp only [List.getElem?_map, getElem?_pollAt]
  split
  · cases tasks[j]? with
    | none => rfl
    | some t => exact congrArg some (outcome_poll t)
  · rfl

/-- **No schedule changes what a task comes to.** -/
theorem map_outcome_runSchedule (schedule : List Nat) (tasks : List Task) :
    (runSchedule schedule tasks).1.map outcome = tasks.map outcome := by
  induction schedule generalizing tasks with
  | nil => rfl
  | cons i schedule ih => simp only [runSchedule, ih, map_outcome_pollAt]

theorem turns_runSchedule (schedule : List Nat) (tasks : List Task) (j : Nat) :
    (runSchedule schedule tasks).1[j]?.map turns =
      tasks[j]?.map (fun t => t.turns - schedule.count j) := by
  induction schedule generalizing tasks with
  | nil => simp [runSchedule]
  | cons i schedule ih =>
    simp only [runSchedule, ih, getElem?_pollAt, List.count_cons, beq_iff_eq]
    split
    · cases tasks[j]? with
      | none => rfl
      | some t => simp only [Option.map_some, turns_poll]; congr 1; omega
    · rfl

/-- A schedule polls tasks until each of them has ended. -/
def Completes (schedule : List Nat) (tasks : List Task) : Prop :=
  ∀ t ∈ (runSchedule schedule tasks).1, t.isDone = true

instance (schedule : List Nat) (tasks : List Task) : Decidable (Completes schedule tasks) :=
  inferInstanceAs (Decidable (∀ t ∈ (runSchedule schedule tasks).1, t.isDone = true))

theorem le_foldl_max (l : List Nat) (m : Nat) : m ≤ l.foldl max m ∧ ∀ n ∈ l, n ≤ l.foldl max m := by
  induction l generalizing m with
  | nil => simp
  | cons a l ih =>
    obtain ⟨hm, hl⟩ := ih (max m a)
    simp only [List.foldl_cons, List.mem_cons, forall_eq_or_imp]
    exact ⟨by omega, by omega, hl⟩

/-- A round polls an unfinished task once. -/
theorem count_round (tasks : List Task) (round j : Nat) :
    ((List.range tasks.length).filter fun i => tasks[i]?.any fun t => round < t.turns).count j =
      if tasks[j]?.any fun t => round < t.turns then 1 else 0 := by
  split
  · rename_i h
    have hlt : j < tasks.length := by
      obtain ⟨t, ht, -⟩ := (Option.any_eq_true _ _).mp h
      exact (List.getElem?_eq_some_iff.mp ht).1
    rw [List.count_filter (by exact h), List.count_range, if_pos hlt]
  · rename_i h
    exact List.count_eq_zero.mpr fun hmem => h (List.mem_filter.mp hmem).2

theorem count_rounds (tasks : List Task) (rounds : Nat) {j : Nat} {t : Task} (h : tasks[j]? = some t) :
    ((List.range rounds).flatMap fun round =>
      (List.range tasks.length).filter fun i => tasks[i]?.any fun t => round < t.turns).count j =
      min rounds t.turns := by
  induction rounds with
  | zero => simp
  | succ rounds ih =>
    rw [List.range_succ, List.flatMap_append, List.count_append, ih]
    simp only [List.flatMap_cons, List.flatMap_nil, List.append_nil, count_round, h, Option.any_some,
      decide_eq_true_eq]
    split <;> omega

theorem roundRobin_completes (tasks : List Task) : Completes (roundRobin tasks) tasks := by
  intro t ht
  obtain ⟨j, hj⟩ := List.mem_iff_getElem?.mp ht
  have hturns := turns_runSchedule (roundRobin tasks) tasks j
  rw [hj] at hturns
  cases hold : tasks[j]? with
  | none => simp [hold] at hturns
  | some old =>
    have hmax : old.turns ≤ (tasks.map turns).foldl max 0 :=
      (le_foldl_max (tasks.map turns) 0).2 _ (List.mem_map_of_mem (List.mem_of_getElem? hold))
    rw [hold, Option.map_some, Option.map_some, Option.some.injEq, roundRobin,
      count_rounds tasks _ hold] at hturns
    rw [isDone_iff_turns, hturns]
    omega

/-! ## Reports -/

theorem outcome_of_isDone {t : Task} (h : t.isDone = true) :
    t.outcome = t.reporter.recorded.reverse := by
  obtain ⟨r, rest⟩ := t
  cases rest with
  | none => simp [outcome]
  | some process => simp [isDone] at h

theorem foldl_report (tasks : List Task) (before : List Event) (h : ∀ t ∈ tasks, t.isDone = true) :
    tasks.foldl (fun report t => report ++ t.reporter.report) (Report.ofEvents before) =
      .ofEvents (before ++ tasks.flatMap outcome) := by
  induction tasks generalizing before with
  | nil => simp
  | cons t tasks ih =>
    have ht : t.reporter.report = .ofEvents t.outcome := by
      rw [outcome_of_isDone (h t List.mem_cons_self)]
      rfl
    rw [List.foldl_cons, ht, ← Report.ofEvents_append,
      ih _ (fun u hu => h u (List.mem_cons_of_mem t hu))]
    simp

/-- The report of tasks polled until they have ended is that of the outcomes
they had at their start. -/
theorem mergedReport_runSchedule {schedule : List Nat} {tasks : List Task}
    (h : Completes schedule tasks) :
    mergedReport (runSchedule schedule tasks).1 = .ofEvents (tasks.flatMap outcome) := by
  have hfold := foldl_report _ [] h
  rw [List.nil_append, List.flatMap_def, map_outcome_runSchedule, ← List.flatMap_def] at hfold
  exact hfold

end Task

/-! ## Runs of one instance -/

namespace Linter

/-- The linter whose settings give one instance and nothing else. -/
def only (l : Linter) (i : RuleInstance) : Linter :=
  { l with settings := RuleSettings.empty.set i.name (.one i.options) }

/-- The tasks of a run, at their start. -/
def tasks (l : Linter) (d : Document) (context : Context) : List Task :=
  (resolveAll l.registry l.settings.instances).1.map (startTask l.listeners d context)

theorem resolveAll_fst (registry : Registry) (instances : List RuleInstance) :
    (resolveAll registry instances).1 = instances.flatMap fun i => (resolveAll registry [i]).1 := by
  induction instances with
  | nil => rfl
  | cons i instances ih =>
    rw [List.flatMap_cons, ← ih]
    simp only [resolveAll]
    cases registry.resolve i.name i.options <;> rfl

theorem tasks_eq_flatMap_only (l : Linter) (d : Document) (context : Context) :
    l.tasks d context = l.settings.instances.flatMap fun i => (l.only i).tasks d context := by
  have hone (i : RuleInstance) : (l.only i).tasks d context =
      (resolveAll l.registry [i]).1.map (startTask l.listeners d context) := rfl
  simp only [hone]
  rw [tasks, resolveAll_fst, List.map_flatMap]

theorem report_runDocument {l : Linter} {schedule : List Task → List Nat} {d : Document}
    {context : Context} (h : Task.Completes (schedule (l.tasks d context)) (l.tasks d context)) :
    (l.runDocument schedule d context).1 = .ofEvents ((l.tasks d context).flatMap Task.outcome) :=
  Task.mergedReport_runSchedule h

theorem outcome_run {l : Linter} {read : ReadText} {input : String} {d : Document}
    (h : Document.parse (resolveInput read input).1 = .ok d) :
    (l.run read input).outcome =
      .ok (.ofEvents ((l.tasks d (resolveInput read input).2).flatMap Task.outcome)) := by
  simp only [run, h]
  rw [report_runDocument (Task.roundRobin_completes _)]

/-- **Instances do not touch each other.** Polled in any order until all have
ended, the instances of a run report, one after the other, what each reports
when it is the only one; a run is such an order. -/
theorem report_eq_flatMap_only (l : Linter) (read : ReadText) (input : String) (d : Document)
    (parsed : Document.parse (resolveInput read input).1 = .ok d) (schedule : List Task → List Nat)
    (completes : Task.Completes (schedule (l.tasks d (resolveInput read input).2))
      (l.tasks d (resolveInput read input).2)) :
    ∃ (report : Report) (solo : RuleInstance → Report),
      (l.runDocument schedule d (resolveInput read input).2).1 = report ∧
      (l.run read input).outcome = .ok report ∧
      (∀ i, ((l.only i).run read input).outcome = .ok (solo i)) ∧
      report.exceptions = l.settings.instances.flatMap (fun i => (solo i).exceptions) ∧
      report.errors = l.settings.instances.flatMap (fun i => (solo i).errors) ∧
      report.warnings = l.settings.instances.flatMap (fun i => (solo i).warnings) ∧
      report.logs = l.settings.instances.flatMap (fun i => (solo i).logs) := by
  refine ⟨_, fun i => .ofEvents (((l.only i).tasks d (resolveInput read input).2).flatMap Task.outcome),
    report_runDocument completes, outcome_run parsed, fun i => outcome_run parsed, ?_⟩
  rw [tasks_eq_flatMap_only, List.flatMap_assoc]
  simp only [Report.ofEvents, List.filterMap_flatMap, and_self]

/-- Two scripts that give up their turns: one reports before and after, the
other ends in a panic. -/
def suspendingScripts : Linter where
  settings := RuleSettings.empty.set "custom" (.many
    [.check (Script.toRule [.report .error (.ofText "slow") none, .defer, .yield, .yield,
      .finding (.ofText "late") none]),
    .check (Script.toRule [.defer, .report .warning (.ofText "careful") none, .yield,
      .panic (.text "lost")])])
  registry := Registry.empty.register "custom" customFactory
  listeners := []

/-- The document that is one empty element `svg`. -/
def bareDocument : Document where
  nodes := #[⟨.element "svg" [], none, #[], ⟨0, 6⟩, ⟨1, 1⟩⟩]
  parent_lt := by simp
  child_lt := by simp
  root := ⟨0, by simp⟩
  source := ['<', 's', 'v', 'g', '/', '>']

theorem report_suspendingScripts :
    Document.parse (resolveInput (fun _ => none) "<svg/>").1 = .ok bareDocument ∧
    Task.Completes [1, 0, 1, 0, 0] (suspendingScripts.tasks bareDocument ⟨none⟩) ∧
    ∃ (report : Report) (solo : RuleInstance → Report),
      (suspendingScripts.runDocument (fun _ => [1, 0, 1, 0, 0]) bareDocument ⟨none⟩).1 = report ∧
      (suspendingScripts.run (fun _ => none) "<svg/>").outcome = .ok report ∧
      (∀ i, ((suspendingScripts.only i).run (fun _ => none) "<svg/>").outcome = .ok (solo i)) ∧
      report.exceptions = suspendingScripts.settings.instances.flatMap (fun i => (solo i).exceptions) ∧
      report.errors = suspendingScripts.settings.instances.flatMap (fun i => (solo i).errors) ∧
      report.warnings = suspendingScripts.settings.instances.flatMap (fun i => (solo i).warnings) ∧
      report.logs = suspendingScripts.settings.instances.flatMap (fun i => (solo i).logs) ∧
      report.exceptions.map RuleException.message = ["custom: lost"] ∧
      report.errors.map Diagnostic.message = ["custom: slow", "custom: late"] ∧
      report.warnings.map Diagnostic.message = ["custom: careful"] ∧ report.logs = [] := by
  have parsed : Document.parse (resolveInput (fun _ => none) "<svg/>").1 = .ok bareDocument := by rfl
  have completes : Task.Completes [1, 0, 1, 0, 0] (suspendingScripts.tasks bareDocument ⟨none⟩) := by
    decide
  obtain ⟨report, solo, polled, outcome, alone, exceptions, errors, warnings, logs⟩ :=
    report_eq_flatMap_only suspendingScripts (fun _ => none) "<svg/>" bareDocument parsed
      (fun _ => [1, 0, 1, 0, 0]) completes
  have items : (suspendingScripts.run (fun _ => none) "<svg/>").outcome.toOption.map (fun r =>
      (r.exceptions.map RuleException.message, r.errors.map Diagnostic.message,
        r.warnings.map Diagnostic.message, r.logs.length)) =
      some (["custom: lost"], ["custom: slow", "custom: late"], ["custom: careful"], 0) := by
    decide +kernel
  rw [outcome] at items
  simp only [Except.toOption, Option.map_some, Option.some.injEq, Prod.mk.injEq,
    List.length_eq_zero_iff] at items
  exact ⟨parsed, completes, report, solo, polled, outcome, alone, exceptions, errors, warnings, logs,
    items⟩

end Linter

end VectorLint
