/-
Execution: what the report of a rule comes to that follows a script. What the
script reported is there, each kind in order, and behind it either the
findings or one exception with the reason why it failed; the steps behind a
failing one might as well not be there (`executes_script`).

Where a script is deferred, and how often it gives up its turn, makes no
difference: the entries of its process are read off its steps
(`entries_process`), and a task that is polled until it has ended records the
entries of its process, in whatever order it takes turns with others.
-/
import Mathlib.Logic.Function.Iterate
import VectorLint.Proofs.Report.Recording
import VectorLint.Proofs.Run.Instances

namespace VectorLint

/-! ## Tasks polled until they have ended -/

namespace Task

/-- The task after its next poll. -/
def next (t : Task) : Task := t.poll.1

/-- The task polled until it has ended. -/
def execute (t : Task) : Task := next^[t.turns] t

theorem turns_iterate (n : Nat) (t : Task) : (next^[n] t).turns = t.turns - n := by
  induction n with
  | zero => rfl
  | succ n ih =>
    rw [Function.iterate_succ_apply', next, turns_poll, ih]
    omega

theorem outcome_iterate (n : Nat) (t : Task) : (next^[n] t).outcome = t.outcome := by
  induction n with
  | zero => rfl
  | succ n ih => rw [Function.iterate_succ_apply', next, outcome_poll, ih]

theorem isDone_execute (t : Task) : t.execute.isDone = true := by
  rw [isDone_iff_turns, execute, turns_iterate, Nat.sub_self]

theorem next_of_isDone {t : Task} (h : t.isDone = true) : t.next = t := by
  obtain ⟨r, rest⟩ := t
  cases rest with
  | none => rfl
  | some process => simp [isDone] at h

/-- A task that has ended has gone no further than to its end. -/
theorem iterate_eq_execute {n : Nat} {t : Task} (h : (next^[n] t).isDone = true) :
    next^[n] t = t.execute := by
  rw [isDone_iff_turns, turns_iterate] at h
  obtain ⟨k, rfl⟩ : ∃ k, n = k + t.turns := ⟨n - t.turns, by omega⟩
  rw [Function.iterate_add_apply]
  exact Function.iterate_fixed (next_of_isDone t.isDone_execute) k

theorem getElem?_runSchedule (schedule : List Nat) (tasks : List Task) (j : Nat) :
    (runSchedule schedule tasks).1[j]? = tasks[j]?.map next^[schedule.count j] := by
  induction schedule generalizing tasks with
  | nil => simp [runSchedule]
  | cons i schedule ih =>
    simp only [runSchedule, ih, getElem?_pollAt, List.count_cons, beq_iff_eq]
    split
    · rw [Option.map_map]
      rfl
    · rfl

theorem report_execute (t : Task) : t.execute.reporter.report = .ofEvents t.outcome := by
  rw [← outcome_iterate t.turns t, ← execute, outcome_of_isDone t.isDone_execute]
  rfl

end Task

/-! ## Scripts, read step by step -/

namespace Step

/-- What a step asks to record. -/
def entries (d : Document) (context : Context) : Step → List Entry
  | .report severity message at? => [.diagnostic severity message (at?.bind d.ref?)]
  | .exception reason => [.exception reason]
  | .query selector message =>
    match d.query selector with
    | .error _ => []
    | .ok ids => ids.map fun id => .diagnostic .error message (d.ref? id)
  | .filepath =>
    match context.filepath with
    | some path => [Script.logEntry [.string "filepath", .string path]]
    | none => [Script.logEntry [.string "no filepath"]]
  | .sourceLength => [Script.logEntry [.ofNat d.source.length]]
  | .finding .. | .fail _ | .panic _ | .defer | .yield => []

/-- What a step finds. -/
def finding? (d : Document) : Step → Option Finding
  | .finding message at? => some ⟨message, at?.bind d.ref?⟩
  | _ => none

/-- How a step fails, if it does. -/
def failure? (d : Document) : Step → Option Failure
  | .fail chain => some (.error chain)
  | .panic p => some (.panic p)
  | .query selector _ =>
    match d.query selector with
    | .error e => some (.error [e.message])
    | .ok _ => none
  | _ => none

end Step

namespace Script

variable {d : Document} {context : Context}

/-- The steps up to the first that fails. -/
def course (d : Document) (s : Script) : List Step :=
  s.takeWhile fun step => (step.failure? d).isNone

/-- What a script reports before it ends or fails. -/
def reported (d : Document) (context : Context) (s : Script) : List Entry :=
  (s.course d).flatMap (Step.entries d context)

/-- What a script finds before it ends or fails. -/
def findings (d : Document) (s : Script) : List Finding :=
  (s.course d).filterMap (Step.finding? d)

/-- How a script fails, if it does. -/
def failure? (d : Document) (s : Script) : Option Failure :=
  s.findSome? (Step.failure? d)

/-- What a script comes to besides what it reports. -/
def conclusion (d : Document) (found : List Finding) (s : Script) : List Entry :=
  match s.failure? d with
  | none => (found ++ s.findings d).map Task.findingEntry
  | some failure => [.exception failure.message]

theorem entries_of_failure {step : Step} {failure : Failure} (h : step.failure? d = some failure) :
    step.entries d context = [] := by
  cases step with
  | query selector message =>
    rw [Step.failure?] at h
    rw [Step.entries]
    cases hquery : d.query selector with
    | error e => rfl
    | ok ids => simp [hquery] at h
  | fail chain | panic p => rfl
  | report | exception | finding | filepath | sourceLength | defer | yield => cases h

theorem reported_cons_of_failure {step : Step} {failure : Failure}
    (h : step.failure? d = some failure) (s : Script) : reported d context (step :: s) = [] := by
  simp [reported, course, h]

theorem reported_cons {step : Step} (h : step.failure? d = none) (s : Script) :
    reported d context (step :: s) = step.entries d context ++ s.reported d context := by
  simp [reported, course, h]

theorem conclusion_cons_of_failure {step : Step} {failure : Failure}
    (h : step.failure? d = some failure) (found : List Finding) (s : Script) :
    conclusion d found (step :: s) = [.exception failure.message] := by
  simp [conclusion, failure?, h]

theorem conclusion_cons {step : Step} (h : step.failure? d = none) (found : List Finding)
    (s : Script) :
    conclusion d found (step :: s) = conclusion d (found ++ (step.finding? d).toList) s := by
  have hfailure : failure? d (step :: s) = s.failure? d := by simp [failure?, h]
  have hfindings : findings d (step :: s) = (step.finding? d).toList ++ s.findings d := by
    cases hfinding : step.finding? d <;> simp [findings, course, h, hfinding]
  rw [conclusion, conclusion, hfailure, hfindings, List.append_assoc]

/-- A step goes first, then what is left of the script. -/
theorem entries_process_cons (d : Document) (context : Context) (deferred : Bool)
    (found : List Finding) (step : Step) (s : Script) :
    ∃ later, (process d context deferred found (step :: s)).entries =
      step.entries d context ++
        match step.failure? d with
        | none => (process d context later ((step.finding? d).toList ++ found) s).entries
        | some failure => [.exception failure.message] := by
  cases step with
  | query selector message =>
    refine ⟨deferred, ?_⟩
    simp only [process, Step.entries, Step.failure?, Step.finding?]
    cases d.query selector with
    | error e => rfl
    | ok ids => exact Process.entries_recordAll _ _
  | filepath =>
    refine ⟨deferred, ?_⟩
    simp only [process, Step.entries]
    cases context.filepath <;> rfl
  | defer => exact ⟨true, rfl⟩
  | yield => exact ⟨deferred, by cases deferred <;> rfl⟩
  | report severity message at? | exception reason | finding message at? | sourceLength | fail chain
    | panic p => exact ⟨deferred, rfl⟩

/-- **A script records what its steps report, and then its conclusion**,
deferred at any point or not. -/
theorem entries_process (deferred : Bool) (found : List Finding) (s : Script) :
    (process d context deferred found s).entries =
      s.reported d context ++ s.conclusion d found.reverse := by
  induction s generalizing deferred found with
  | nil => simp [process, Process.entries, reported, course, conclusion, failure?, findings]
  | cons step s ih =>
    obtain ⟨later, hstep⟩ := entries_process_cons d context deferred found step s
    rw [hstep]
    cases hfailure : step.failure? d with
    | some failure =>
      rw [entries_of_failure hfailure, reported_cons_of_failure hfailure,
        conclusion_cons_of_failure hfailure]
    | none =>
      have hfound : ((step.finding? d).toList ++ found).reverse =
          found.reverse ++ (step.finding? d).toList := by
        cases step.finding? d <;> simp
      rw [reported_cons hfailure, conclusion_cons hfailure, ← hfound, List.append_assoc, ← ih]

theorem process_of_failure {step : Step} {failure : Failure} (h : step.failure? d = some failure)
    (deferred : Bool) (found : List Finding) (s : Script) :
    process d context deferred found (step :: s) = .fail failure := by
  cases step with
  | query selector message =>
    simp only [Step.failure?] at h
    simp only [process]
    cases hquery : d.query selector with
    | error e => simpa [hquery] using h
    | ok ids => simp [hquery] at h
  | fail chain | panic p =>
    cases h
    rfl
  | report | exception | finding | filepath | sourceLength | defer | yield => cases h

/-- Behind a step that fails anything may follow. -/
theorem process_append_cons (deferred : Bool) (found : List Finding) (before : Script) {step : Step}
    (h : (step.failure? d).isSome) (after : Script) :
    process d context deferred found (before ++ step :: after) =
      process d context deferred found (before ++ [step]) := by
  induction before generalizing deferred found with
  | nil =>
    obtain ⟨failure, hfailure⟩ := Option.isSome_iff_exists.mp h
    rw [List.nil_append, List.nil_append, process_of_failure hfailure, process_of_failure hfailure]
  | cons first before ih =>
    simp only [List.cons_append, process, ih]

/-! ## Scripts executed -/

/-- The errors that findings are recorded as. -/
def errorsOf (name : String) (found : List Finding) : List Diagnostic :=
  found.map fun f => ⟨name, .error, f.message, f.node⟩

theorem errors_findings (name : String) (found : List Finding) :
    (found.map Task.findingEntry).filterMap (Entry.diagnostic? name .error) = errorsOf name found := by
  induction found with
  | nil => rfl
  | cons f found ih => exact congrArg (_ :: ·) ih

theorem exceptions_findings (name : String) (found : List Finding) :
    (found.map Task.findingEntry).filterMap (Entry.exception? name) = [] := by
  rw [List.filterMap_map]
  exact List.filterMap_eq_nil_iff.mpr fun _ _ => rfl

/-- No script comes to a warning or a log. -/
theorem remarks_conclusion (name : String) {severity : Severity} (h : severity ≠ .error)
    (found : List Finding) (s : Script) :
    (s.conclusion d found).filterMap (Entry.diagnostic? name severity) = [] := by
  unfold conclusion
  split
  · rw [List.filterMap_map]
    exact List.filterMap_eq_nil_iff.mpr fun _ _ => if_neg (Ne.symm h)
  · rfl

/-- What is in the report of a rule that has followed a script. -/
structure Executed (name : String) (d : Document) (context : Context) (s : Script)
    (report : Report) : Prop where
  warnings : report.warnings = (s.reported d context).filterMap (Entry.diagnostic? name .warning)
  logs : report.logs = (s.reported d context).filterMap (Entry.diagnostic? name .log)
  errors_of_end : s.failure? d = none →
    report.errors = (s.reported d context).filterMap (Entry.diagnostic? name .error) ++
      errorsOf name (s.findings d)
  exceptions_of_end : s.failure? d = none →
    report.exceptions = (s.reported d context).filterMap (Entry.exception? name)
  /-- The findings are lost. -/
  errors_of_failure : (s.failure? d).isSome →
    report.errors = (s.reported d context).filterMap (Entry.diagnostic? name .error)
  exceptions_of_error : ∀ chain, s.failure? d = some (.error chain) →
    report.exceptions = (s.reported d context).filterMap (Entry.exception? name) ++
      [⟨name, ": ".intercalate chain⟩]
  exceptions_of_text : ∀ text, s.failure? d = some (.panic (.text text)) →
    report.exceptions = (s.reported d context).filterMap (Entry.exception? name) ++ [⟨name, text⟩]
  exceptions_of_other : s.failure? d = some (.panic .other) →
    report.exceptions = (s.reported d context).filterMap (Entry.exception? name) ++
      [⟨name, "rule panicked"⟩]

theorem executed_ofEntries (name : String) (d : Document) (context : Context) (s : Script) :
    s.Executed name d context (.ofEntries name (process d context false [] s).entries) := by
  have hexceptions := Report.exceptions_ofEntries name (process d context false [] s).entries
  have hdiagnostics := Report.ofSeverity_ofEntries name (process d context false [] s).entries
  simp only [entries_process, List.filterMap_append, List.reverse_nil] at hexceptions hdiagnostics ⊢
  exact {
    warnings := by
      refine (hdiagnostics .warning).trans ?_
      rw [remarks_conclusion name (by decide), List.append_nil]
    logs := by
      refine (hdiagnostics .log).trans ?_
      rw [remarks_conclusion name (by decide), List.append_nil]
    errors_of_end := fun h => by
      refine (hdiagnostics .error).trans ?_
      rw [conclusion, h, List.nil_append, errors_findings]
    exceptions_of_end := fun h => by
      rw [hexceptions, conclusion, h, exceptions_findings, List.append_nil]
    errors_of_failure := fun h => by
      obtain ⟨failure, hfailure⟩ := Option.isSome_iff_exists.mp h
      refine (hdiagnostics .error).trans ?_
      rw [conclusion, hfailure]
      exact List.append_nil _
    exceptions_of_error := fun chain h => by
      rw [hexceptions, conclusion, h]
      rfl
    exceptions_of_text := fun text h => by
      rw [hexceptions, conclusion, h]
      rfl
    exceptions_of_other := fun h => by
      rw [hexceptions, conclusion, h]
      rfl }

/-- The task of a rule that follows a script, at its start. -/
def task (listeners : List Listener) (name : String) (d : Document) (context : Context)
    (s : Script) : Task :=
  Linter.startTask listeners d context (name, s.toRule)

/-- **A script is executed to its end or its failure.** The report has what
was reported up to there and what the script came to, in whatever order its
task was polled among others; a step behind a failing one is never seen. -/
theorem executed_task (listeners : List Listener) (name : String) (d : Document) (context : Context)
    (s : Script) :
    (s.task listeners name d context).execute.isDone = true ∧
    s.Executed name d context (s.task listeners name d context).execute.reporter.report ∧
    (∀ (before : Script) step (after : Script), s = before ++ step :: after →
      (step.failure? d).isSome →
      s.task listeners name d context = task listeners name d context (before ++ [step])) ∧
    ∀ schedule (tasks : List Task) (j : Nat) ended, tasks[j]? = some (s.task listeners name d context) →
      (Task.runSchedule schedule tasks).1[j]? = some ended → ended.isDone = true →
      ended = (s.task listeners name d context).execute := by
  refine ⟨Task.isDone_execute _, ?_, ?_, ?_⟩
  · rw [Task.report_execute]
    exact executed_ofEntries name d context s
  · rintro before step after rfl h
    rw [task, task, Linter.startTask, Linter.startTask]
    congr 2
    exact process_append_cons false [] before h after
  · intro schedule tasks j ended hstart hended hdone
    rw [Task.getElem?_runSchedule, hstart] at hended
    cases hended
    exact Task.iterate_eq_execute hdone

/-- A script that finds something before it is deferred and after. -/
def findingScript : Script := [
  .report .error (.ofText "reported") none,
  .finding (.ofText "early") none,
  .exception "odd",
  .defer,
  .yield,
  .query "svg" (.ofText "matched"),
  .finding (.ofText "late") none]

/-- The script with a step that fails in it. -/
def failingScript : Script :=
  findingScript ++ [.fail ["outer", "inner"], .report .error (.ofText "unseen") none]

open Linter (bareDocument)

/-- Both scripts in action, with nobody listening. -/
def scriptTasks : List Task :=
  [findingScript.task [] "custom" bareDocument ⟨none⟩, failingScript.task [] "custom" bareDocument ⟨none⟩]

theorem executed_scriptTasks :
    findingScript.failure? bareDocument = none ∧
    failingScript.failure? bareDocument = some (.error ["outer", "inner"]) ∧
    Task.Completes [1, 0, 0, 1] scriptTasks ∧
    ∃ found failed : Task,
      (Task.runSchedule [1, 0, 0, 1] scriptTasks).1[0]? = some found ∧
      (Task.runSchedule [1, 0, 0, 1] scriptTasks).1[1]? = some failed ∧
      found.reporter.report.errors.map Diagnostic.message =
        ["custom: reported", "custom: matched", "custom: early", "custom: late"] ∧
      found.reporter.report.exceptions = [⟨"custom", "odd"⟩] ∧
      failed.reporter.report.errors.map Diagnostic.message =
        ["custom: reported", "custom: matched"] ∧
      failed.reporter.report.exceptions = [⟨"custom", "odd"⟩, ⟨"custom", "outer: inner"⟩] := by
  have ends : findingScript.failure? bareDocument = none := by decide +kernel
  have fails : failingScript.failure? bareDocument = some (.error ["outer", "inner"]) := by
    decide +kernel
  have completes : Task.Completes [1, 0, 0, 1] scriptTasks := by decide +kernel
  have first : (Task.runSchedule [1, 0, 0, 1] scriptTasks).1[0]? = some _ :=
    Task.getElem?_runSchedule [1, 0, 0, 1] scriptTasks 0
  have second : (Task.runSchedule [1, 0, 0, 1] scriptTasks).1[1]? = some _ :=
    Task.getElem?_runSchedule [1, 0, 0, 1] scriptTasks 1
  obtain ⟨-, found, -, foundAmong⟩ := executed_task [] "custom" bareDocument ⟨none⟩ findingScript
  obtain ⟨-, failed, -, failedAmong⟩ := executed_task [] "custom" bareDocument ⟨none⟩ failingScript
  refine ⟨ends, fails, completes, _, _, first, second, ?_⟩
  rw [foundAmong _ scriptTasks 0 _ rfl first (completes _ (List.mem_of_getElem? first)),
    failedAmong _ scriptTasks 1 _ rfl second (completes _ (List.mem_of_getElem? second)),
    found.errors_of_end ends, found.exceptions_of_end ends,
    failed.errors_of_failure (by rw [fails]; rfl), failed.exceptions_of_error _ fails]
  decide +kernel

end Script

end VectorLint
