/-
Listening: listeners change nothing about a run, panicking or not, and miss
nothing of it. Every listener hears the one sequence of events that the
instances record as the schedule polls them (`run_listeners`).

A poll tells what it records and records what it tells, so the same
recursion over the schedule, `heard`, gives what was told, what each instance
has recorded, and what the report is made of.
-/
import VectorLint.Proofs.Run.Interleaving

namespace VectorLint

/-- The name of the rule that an event is from. -/
def Event.rule : Event → String
  | .exception e => e.rule
  | .error d | .warning d | .log d => d.rule

theorem Entry.rule_event (rule : String) (entry : Entry) : (entry.event rule).rule = rule := by
  cases entry with
  | exception reason => rfl
  | diagnostic severity message node => cases severity <;> rfl

/-- What listeners are told in a journal: the listener, the rule, the event. -/
def told (journal : List Notice) : List (String × String × Event) :=
  journal.filterMap fun
    | .logged .. => none
    | .told listener rule event => some (listener, rule, event)

/-- What the listener of a name is told in a journal. -/
def toldTo (name : String) (journal : List Notice) : List (String × Event) :=
  (told journal).filterMap fun (listener, heard) => if listener = name then some heard else none

/-- The warnings logged in a journal. -/
def warned (journal : List Notice) : List String :=
  journal.filterMap fun
    | .logged .warn line => some line
    | _ => none

/-- An event told to each listener, in the order in which they subscribed. -/
def announce (listeners : List Listener) (event : Event) : List (String × String × Event) :=
  listeners.map fun listener => (listener.name, event.rule, event)

theorem told_append (a b : List Notice) : told (a ++ b) = told a ++ told b :=
  List.filterMap_append

theorem told_logged (level : Level) (text : String) (journal : List Notice) :
    told (.logged level text :: journal) = told journal := rfl

theorem told_andThen (a b : Happening) (past : List Notice) :
    told (a.andThen b past) = told (a past) ++ told (b (past ++ a past)) :=
  told_append _ _

namespace Reporter

/-! Whatever listeners make of what they remember, they are told the same. -/

/-- A listener that panics has been told, as any other. -/
theorem told_tell (event : Event) (listener : Listener) (past : List Notice) :
    told (tell event.rule event listener past) = announce [listener] event := by
  unfold tell
  cases listener.panic? ⟨event, past⟩ <;> rfl

theorem told_tellAll (event : Event) (listeners : List Listener) (past : List Notice) :
    told (tellAll event.rule event listeners past) = announce listeners event := by
  induction listeners generalizing past with
  | nil => rfl
  | cons listener listeners ih =>
    rw [tellAll, told_andThen, told_tell, ih]
    rfl

theorem told_record (r : Reporter) (entry : Entry) (past : List Notice) :
    told ((r.record entry).2 past) = announce r.listeners (entry.event r.name) := by
  have htellAll := told_tellAll (entry.event r.name) r.listeners
  rw [entry.rule_event] at htellAll
  rw [record, told_andThen, htellAll]
  rfl

theorem told_recordAll (r : Reporter) (entries : List Entry) (past : List Notice) :
    told ((r.recordAll entries).2 past) =
      (entries.map (Entry.event r.name)).flatMap (announce r.listeners) := by
  induction entries generalizing r past with
  | nil => rfl
  | cons entry entries ih =>
    simp only [recordAll]
    rw [told_andThen, told_record, ih, recorded_record, List.map_cons, List.flatMap_cons]

end Reporter

/-- What a process asks to record before it gives up its turn or ends. -/
def Process.burst : Process → List Entry
  | .record entry next => entry :: next.burst
  | .suspend _ => []
  | .finish findings => findings.map Task.findingEntry
  | .fail failure => [.exception failure.message]

namespace Task

/-- The events that the next poll of a task records, the oldest first. -/
def news (t : Task) : List Event :=
  match t.rest with
  | none => []
  | some process => process.burst.map (Entry.event t.reporter.name)

theorem reporter_advance (r : Reporter) (p : Process) :
    (advance r p).1.reporter =
      { r with recorded := (p.burst.map (Entry.event r.name)).reverse ++ r.recorded } := by
  induction p generalizing r with
  | record entry next ih =>
    simp only [advance]
    rw [ih, r.recorded_record]
    simp [Process.burst]
  | suspend next ih => rfl
  | finish findings => simp only [advance, r.recorded_recordAll, Process.burst]
  | fail failure => rfl

theorem told_advance (r : Reporter) (p : Process) (past : List Notice) :
    told ((advance r p).2 past) =
      (p.burst.map (Entry.event r.name)).flatMap (announce r.listeners) := by
  induction p generalizing r past with
  | record entry next ih =>
    simp only [advance]
    rw [told_andThen, r.told_record, ih, r.recorded_record]
    rfl
  | suspend next ih => rfl
  | finish findings => simp only [advance, r.told_recordAll, Process.burst]
  | fail failure =>
    simp only [advance]
    rw [r.told_record, Process.burst, List.map_singleton, List.flatMap_singleton]

/-- The events that a task has recorded, the oldest first. -/
def events (t : Task) : List Event :=
  t.reporter.recorded.reverse

theorem events_poll (t : Task) : t.poll.1.events = t.events ++ t.news := by
  obtain ⟨r, rest⟩ := t
  cases rest with
  | none => simp [poll, news]
  | some process => simp [poll, events, news, reporter_advance]

theorem listeners_poll (t : Task) : t.poll.1.reporter.listeners = t.reporter.listeners := by
  obtain ⟨r, rest⟩ := t
  cases rest with
  | none => rfl
  | some process => simp [poll, reporter_advance]

theorem told_poll (t : Task) (past : List Notice) :
    told (t.poll.2 past) = t.news.flatMap (announce t.reporter.listeners) := by
  obtain ⟨r, rest⟩ := t
  cases rest with
  | none => rfl
  | some process => exact told_advance r process past

/-! ## Schedules -/

/-- The events that a poll of the task at an index records. -/
def newsAt (i : Nat) (tasks : List Task) : List Event :=
  (tasks[i]?.map news).getD []

/-- The events that the task at an index has recorded. -/
def eventsAt (i : Nat) (tasks : List Task) : List Event :=
  (tasks[i]?.map events).getD []

/-- The events that polls record, each with the index of its task, in the
order of the polls. -/
def heard : (schedule : List Nat) → List Task → List (Nat × Event)
  | [], _ => []
  | i :: schedule, tasks => (newsAt i tasks).map (i, ·) ++ heard schedule (pollAt i tasks).1

/-- The events of one task among events that carry an index. -/
def ofTask (i : Nat) (events : List (Nat × Event)) : List Event :=
  (events.filter (·.1 = i)).map Prod.snd

theorem ofTask_append (i : Nat) (a b : List (Nat × Event)) :
    ofTask i (a ++ b) = ofTask i a ++ ofTask i b := by
  rw [ofTask, List.filter_append, List.map_append]
  rfl

theorem ofTask_map (i j : Nat) (events : List Event) :
    ofTask j (events.map (i, ·)) = if i = j then events else [] := by
  split <;> simp [ofTask, List.filter_map, Function.comp_def, *]

theorem listeners_pollAt {listeners : List Listener} (i : Nat) {tasks : List Task}
    (h : ∀ t ∈ tasks, t.reporter.listeners = listeners) :
    ∀ t ∈ (pollAt i tasks).1, t.reporter.listeners = listeners := by
  intro t ht
  obtain ⟨j, hj⟩ := List.mem_iff_getElem?.mp ht
  rw [getElem?_pollAt] at hj
  split at hj
  · obtain ⟨old, hold, rfl⟩ := Option.map_eq_some_iff.mp hj
    rw [listeners_poll]
    exact h old (List.mem_of_getElem? hold)
  · exact h t (List.mem_of_getElem? hj)

theorem told_pollAt {listeners : List Listener} (i : Nat) {tasks : List Task}
    (h : ∀ t ∈ tasks, t.reporter.listeners = listeners) (past : List Notice) :
    told ((pollAt i tasks).2 past) = (newsAt i tasks).flatMap (announce listeners) := by
  unfold pollAt newsAt
  cases hi : tasks[i]? with
  | none => rfl
  | some t =>
    rw [← h t (List.mem_of_getElem? hi)]
    exact told_poll t past

theorem eventsAt_pollAt (i j : Nat) (tasks : List Task) :
    eventsAt j (pollAt i tasks).1 = eventsAt j tasks ++ ofTask j ((newsAt i tasks).map (i, ·)) := by
  rw [eventsAt, getElem?_pollAt, ofTask_map]
  split
  · rename_i hij
    subst hij
    cases hi : tasks[i]? with
    | none => simp [eventsAt, newsAt, hi]
    | some t => simp [eventsAt, newsAt, hi, events_poll]
  · exact (List.append_nil _).symm

theorem perm_events_pollAt (i : Nat) (tasks : List Task) :
    ((pollAt i tasks).1.flatMap events).Perm (tasks.flatMap events ++ newsAt i tasks) := by
  unfold pollAt newsAt
  cases hi : tasks[i]? with
  | none => simp
  | some t =>
    obtain ⟨hlt, ht⟩ := List.getElem?_eq_some_iff.mp hi
    have hold : tasks = tasks.take i ++ t :: tasks.drop (i + 1) := by simp [← ht]
    have hnew : tasks.set i t.poll.1 = tasks.take i ++ t.poll.1 :: tasks.drop (i + 1) := by
      rw [List.set_eq_take_append_cons_drop, if_pos hlt]
    generalize tasks.take i = before at hold hnew
    generalize tasks.drop (i + 1) = behind at hold hnew
    show ((tasks.set i t.poll.1).flatMap events).Perm (tasks.flatMap events ++ t.news)
    rw [hnew, hold]
    simp only [List.flatMap_append, List.flatMap_cons, events_poll, List.append_assoc]
    -- The news stand behind the task's own events; they change places with the tasks behind it.
    exact (List.perm_append_comm.append_left _).append_left _

theorem told_runSchedule {listeners : List Listener} (schedule : List Nat) {tasks : List Task}
    (h : ∀ t ∈ tasks, t.reporter.listeners = listeners) (past : List Notice) :
    told ((runSchedule schedule tasks).2 past) =
      (heard schedule tasks).flatMap fun e => announce listeners e.2 := by
  induction schedule generalizing tasks past with
  | nil => rfl
  | cons i schedule ih =>
    simp only [runSchedule, heard]
    rw [told_andThen, told_pollAt i h, ih (listeners_pollAt i h), List.flatMap_append,
      List.flatMap_map]

/-- The events of a task come in the order in which it records them. -/
theorem eventsAt_runSchedule (schedule : List Nat) (tasks : List Task) (j : Nat) :
    eventsAt j (runSchedule schedule tasks).1 =
      eventsAt j tasks ++ ofTask j (heard schedule tasks) := by
  induction schedule generalizing tasks with
  | nil => exact (List.append_nil _).symm
  | cons i schedule ih =>
    simp only [runSchedule, heard]
    rw [ih, eventsAt_pollAt, ofTask_append, List.append_assoc]

/-- What tasks have recorded is what they had recorded and what was told. -/
theorem perm_events_runSchedule (schedule : List Nat) (tasks : List Task) :
    ((runSchedule schedule tasks).1.flatMap events).Perm
      (tasks.flatMap events ++ (heard schedule tasks).map Prod.snd) := by
  induction schedule generalizing tasks with
  | nil => simp [runSchedule, heard]
  | cons i schedule ih =>
    simp only [runSchedule, heard, List.map_append, List.map_map, Function.comp_def, List.map_id']
    rw [← List.append_assoc]
    exact (ih _).trans ((perm_events_pollAt i tasks).append_right _)

/-- The reports of tasks that have ended hold what was told while they were
polled. -/
theorem perm_outcome_heard {schedule : List Nat} {tasks : List Task}
    (started : tasks.flatMap events = []) (completes : Completes schedule tasks) :
    (tasks.flatMap outcome).Perm ((heard schedule tasks).map Prod.snd) := by
  have hended : tasks.flatMap outcome = (runSchedule schedule tasks).1.flatMap events := by
    rw [List.flatMap_def, ← map_outcome_runSchedule schedule, List.flatMap_def]
    exact congrArg List.flatten (List.map_congr_left fun t ht => outcome_of_isDone (completes t ht))
  have hperm := perm_events_runSchedule schedule tasks
  rwa [started, List.nil_append, ← hended] at hperm

/-! ## Without listeners -/

/-- The task with nobody listening. -/
def silent (t : Task) : Task :=
  { t with reporter := { t.reporter with listeners := [] } }

theorem silent_advance (r : Reporter) (p : Process) :
    (advance r p).1.silent = (advance { r with listeners := [] } p).1 := by
  induction p generalizing r with
  | record entry next ih => exact ih (r.record entry).1
  | suspend next ih => rfl
  | finish findings => simp only [advance, silent, Reporter.recorded_recordAll]
  | fail failure => rfl

theorem silent_poll (t : Task) : t.poll.1.silent = t.silent.poll.1 := by
  obtain ⟨r, rest⟩ := t
  cases rest with
  | none => rfl
  | some process => exact silent_advance r process

theorem map_silent_pollAt (i : Nat) (tasks : List Task) :
    (pollAt i tasks).1.map silent = (pollAt i (tasks.map silent)).1 := by
  unfold pollAt
  rw [List.getElem?_map]
  cases tasks[i]? with
  | none => rfl
  | some t => simp [silent_poll]

/-- A schedule goes on in the same way whoever listens. -/
theorem heard_map_silent (schedule : List Nat) (tasks : List Task) :
    heard schedule (tasks.map silent) = heard schedule tasks := by
  induction schedule generalizing tasks with
  | nil => rfl
  | cons i schedule ih =>
    have hnews : newsAt i (tasks.map silent) = newsAt i tasks := by
      rw [newsAt, List.getElem?_map, Option.map_map]
      rfl
    simp only [heard, hnews, ← map_silent_pollAt, ih]

end Task

/-! ## Runs -/

theorem filterMap_announce (name : String) (listeners : List Listener) (event : Event) :
    (announce listeners event).filterMap (fun (listener, heard) =>
      if listener = name then some heard else none) =
      List.replicate ((listeners.map Listener.name).count name) (event.rule, event) := by
  induction listeners with
  | nil => rfl
  | cons listener listeners ih =>
    show (((listener.name, event.rule, event) :: announce listeners event).filterMap _) = _
    rw [List.filterMap_cons, ih, List.map_cons, List.count_cons]
    by_cases h : listener.name = name
    · simp [h, List.replicate_succ]
    · simp [h]

namespace Linter

/-- The linter with nobody listening. -/
def silent (l : Linter) : Linter :=
  { l with listeners := [] }

/-- The instances of a run, at its end. -/
def ended (l : Linter) (schedule : List Nat) (d : Document) (context : Context) : List Task :=
  (Task.runSchedule schedule (l.tasks d context)).1

/-- The events of a run, each with the index of its instance, in the order
in which the instances record them. -/
def heard (l : Linter) (schedule : List Nat) (d : Document) (context : Context) :
    List (Nat × Event) :=
  Task.heard schedule (l.tasks d context)

/-- Listeners follow a run of a linter: what its journal says they were told,
against the report. -/
structure Followed (l : Linter) (schedule : List Nat) (d : Document) (context : Context)
    (journal : List Notice) (report : Report) : Prop where
  /-- Each event goes to every listener, in the order of their subscription. -/
  announced : told journal = (l.heard schedule d context).flatMap fun e => announce l.listeners e.2
  /-- A listener that can be told from the others hears each event once. -/
  alike : (l.listeners.map Listener.name).Nodup → ∀ listener ∈ l.listeners,
    toldTo listener.name journal = (l.heard schedule d context).map fun e => (e.2.rule, e.2)
  /-- What there is to hear is not up to who listens. -/
  alone : l.heard schedule d context = l.silent.heard schedule d context
  exceptions :
    (((l.heard schedule d context).map Prod.snd).filterMap Event.exception?).Perm report.exceptions
  errors : (((l.heard schedule d context).map Prod.snd).filterMap Event.error?).Perm report.errors
  warnings :
    (((l.heard schedule d context).map Prod.snd).filterMap Event.warning?).Perm report.warnings
  logs : (((l.heard schedule d context).map Prod.snd).filterMap Event.log?).Perm report.logs
  merged : report = Task.mergedReport (l.ended schedule d context)
  /-- The events of an instance come as it recorded them. -/
  ordered : ∀ i t, (l.ended schedule d context)[i]? = some t →
    Task.ofTask i (l.heard schedule d context) = t.reporter.recorded.reverse

theorem map_silent_tasks (l : Linter) (d : Document) (context : Context) :
    (l.tasks d context).map Task.silent = l.silent.tasks d context := by
  rw [tasks, List.map_map]
  rfl

theorem listeners_tasks (l : Linter) (d : Document) (context : Context) :
    ∀ t ∈ l.tasks d context, t.reporter.listeners = l.listeners := by
  intro t ht
  obtain ⟨rule, -, rfl⟩ := List.mem_map.mp ht
  rfl

theorem events_tasks {l : Linter} {d : Document} {context : Context} {t : Task}
    (h : t ∈ l.tasks d context) : t.events = [] := by
  obtain ⟨rule, -, rfl⟩ := List.mem_map.mp h
  rfl

theorem told_resolveAll (registry : Registry) (instances : List RuleInstance) :
    told (resolveAll registry instances).2 = [] := by
  induction instances with
  | nil => rfl
  | cons i instances ih =>
    simp only [resolveAll]
    cases registry.resolve i.name i.options with
    | ok rule => exact ih
    | error e => exact ih

theorem told_runDocument (l : Linter) (schedule : List Task → List Nat) (d : Document)
    (context : Context) :
    told (l.runDocument schedule d context).2 =
      (l.heard (schedule (l.tasks d context)) d context).flatMap fun e =>
        announce l.listeners e.2 := by
  have hschedule := Task.told_runSchedule (schedule (l.tasks d context))
    (l.listeners_tasks d context) []
  simp only [runDocument]
  rw [told_append, told_append, told_resolveAll, told_logged, List.nil_append]
  exact (List.append_nil _).trans hschedule

/-- What the instances come to is not up to who listens. -/
theorem outcome_run_silent (l : Linter) (read : ReadText) (input : String) :
    (l.run read input).outcome = (l.silent.run read input).outcome := by
  cases h : Document.parse (resolveInput read input).1 with
  | error e => simp only [run, h]
  | ok d =>
    rw [outcome_run h, outcome_run h, ← map_silent_tasks, List.flatMap_map]
    rfl

theorem ordered_heard {l : Linter} {schedule : List Nat} {d : Document} {context : Context}
    {i : Nat} {t : Task} (h : (l.ended schedule d context)[i]? = some t) :
    Task.ofTask i (l.heard schedule d context) = t.events := by
  have hrun := Task.eventsAt_runSchedule schedule (l.tasks d context) i
  have hstart : Task.eventsAt i (l.tasks d context) = [] := by
    rw [Task.eventsAt]
    cases hi : (l.tasks d context)[i]? with
    | none => rfl
    | some t => exact events_tasks (List.mem_of_getElem? hi)
  rw [hstart, List.nil_append, ← ended, Task.eventsAt, h] at hrun
  exact hrun.symm

theorem followed_of_told {l : Linter} {schedule : List Nat} {d : Document} {context : Context}
    {journal : List Notice} (completes : Task.Completes schedule (l.tasks d context))
    (h : told journal = (l.heard schedule d context).flatMap fun e => announce l.listeners e.2) :
    l.Followed schedule d context journal (.ofEvents ((l.tasks d context).flatMap Task.outcome)) := by
  have hperm := Task.perm_outcome_heard
    (List.flatMap_eq_nil_iff.mpr fun t ht => events_tasks ht) completes
  exact {
    announced := h
    alike := fun hnames listener hmem => by
      have hone : (l.listeners.map Listener.name).count listener.name = 1 := by
        rw [hnames.count, if_pos (List.mem_map_of_mem hmem)]
      rw [toldTo, h, List.filterMap_flatMap]
      simp only [filterMap_announce, hone, List.replicate_one]
      exact List.map_eq_flatMap.symm
    alone := by rw [heard, heard, ← map_silent_tasks, Task.heard_map_silent]
    exceptions := (hperm.filterMap _).symm
    errors := (hperm.filterMap _).symm
    warnings := (hperm.filterMap _).symm
    logs := (hperm.filterMap _).symm
    merged := (Task.mergedReport_runSchedule completes).symm
    ordered := fun _ _ ht => ordered_heard ht }

/-- **Listeners change nothing and miss nothing.** A run comes to the same
whoever listens, and whoever panics at what and when. An input that is no document
gives nothing to hear. A document gives its listeners all that is reported,
in whatever order the instances are polled; a run polls them in rounds. -/
theorem run_listeners (l : Linter) (read : ReadText) (input : String) :
    (l.run read input).outcome = (l.silent.run read input).outcome ∧
    (∀ e, Document.parse (resolveInput read input).1 = .error e →
      told (l.run read input).journal = []) ∧
    ∀ d context, Document.parse (resolveInput read input).1 = .ok d →
      (resolveInput read input).2 = context →
      ∃ report, (l.run read input).outcome = .ok report ∧
        l.Followed (Task.roundRobin (l.tasks d context)) d context (l.run read input).journal
          report ∧
        ∀ schedule, Task.Completes schedule (l.tasks d context) →
          (l.runDocument (fun _ => schedule) d context).1 = report ∧
          l.Followed schedule d context (l.runDocument (fun _ => schedule) d context).2 report := by
  refine ⟨l.outcome_run_silent read input, fun e he => ?_, ?_⟩
  · simp only [run, he]
    rfl
  · rintro d context parsed rfl
    refine ⟨_, outcome_run parsed, followed_of_told (Task.roundRobin_completes _) ?_,
      fun schedule completes => ⟨report_runDocument completes,
        followed_of_told completes (l.told_runDocument _ d _)⟩⟩
    simp only [run, parsed]
    rw [told_logged, told_runDocument]

/-- The suspending scripts with three listeners. The first panics at errors and
exceptions, and the last at all it is told after the first event, whichever
instance that is from. -/
def overheardScripts : Linter where
  settings := suspendingScripts.settings
  registry := suspendingScripts.registry
  listeners := [
    ⟨"nervous", fun telling => match telling.event with
      | .exception _ => some .other
      | .error d => some (.text d.message)
      | _ => none⟩,
    ⟨"calm", fun _ => none⟩,
    ⟨"weary", fun telling =>
      if (toldTo "weary" telling.past).isEmpty then none else some (.text "enough")⟩]

theorem run_overheardScripts :
    Document.parse (resolveInput (fun _ => none) "<svg/>").1 = .ok bareDocument ∧
    (overheardScripts.listeners.map Listener.name).Nodup ∧
    Task.Completes [1, 0, 1, 0, 0] (overheardScripts.tasks bareDocument ⟨none⟩) ∧
    ∃ report, (overheardScripts.run (fun _ => none) "<svg/>").outcome = .ok report ∧
      (overheardScripts.silent.run (fun _ => none) "<svg/>").outcome = .ok report ∧
      (overheardScripts.runDocument (fun _ => [1, 0, 1, 0, 0]) bareDocument ⟨none⟩).1 = report ∧
      (∀ name ∈ ["nervous", "weary"],
        toldTo name (overheardScripts.run (fun _ => none) "<svg/>").journal =
          toldTo "calm" (overheardScripts.run (fun _ => none) "<svg/>").journal) ∧
      (toldTo "calm" (overheardScripts.run (fun _ => none) "<svg/>").journal).map
          (fun e => e.2.message) =
        ["custom: slow", "custom: careful", "custom: lost", "custom: late"] ∧
      warned (overheardScripts.run (fun _ => none) "<svg/>").journal =
        ["[custom] Listener panicked: custom: slow", "[custom] Listener panicked: enough",
          "[custom] Listener panicked: rule panicked", "[custom] Listener panicked: enough",
          "[custom] Listener panicked: custom: late", "[custom] Listener panicked: enough"] := by
  have parsed : Document.parse (resolveInput (fun _ => none) "<svg/>").1 = .ok bareDocument := by rfl
  have names : (overheardScripts.listeners.map Listener.name).Nodup := by decide
  have completes : Task.Completes [1, 0, 1, 0, 0] (overheardScripts.tasks bareDocument ⟨none⟩) := by
    decide
  obtain ⟨same, -, documents⟩ := run_listeners overheardScripts (fun _ => none) "<svg/>"
  obtain ⟨report, outcome, followed, anyOrder⟩ := documents bareDocument ⟨none⟩ parsed rfl
  have alike := followed.alike names
  simp only [overheardScripts, List.forall_mem_cons] at alike
  obtain ⟨nervous, calm, weary, -⟩ := alike
  refine ⟨parsed, names, completes, report, outcome, same.symm.trans outcome,
    (anyOrder _ completes).1, ?_, by decide +kernel, by decide +kernel⟩
  simp only [List.forall_mem_cons]
  exact ⟨nervous.trans calm.symm, weary.trans calm.symm, List.forall_mem_nil _⟩

end Linter

end VectorLint
