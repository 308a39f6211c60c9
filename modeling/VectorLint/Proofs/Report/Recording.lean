/-
What becomes of what is recorded. Reports that are taken out of a reporter
and the one that is left in it make up, one behind the other, the report of
all that was recorded (`taken_append_report`); looking at a report changes
nothing (`run_filter_looks`), and each subscriber hears what is recorded from
its subscription on (`received_performAll`).

Handles add nothing to this. Whatever is done at a desk, each reporter lives
through the operations that its handles were used for and through no others
(`recounts_run`).
-/
import Mathlib.Data.List.Basic
import VectorLint.Proofs.Run.Listening
import VectorLint.Report.Desk

namespace VectorLint

variable {rule : String} {r : Reporter} {k : Nat}

/-! ## Reports of entries -/

namespace Entry

/-- The exception of a rule that an entry asks for. -/
def exception? (rule : String) : Entry → Option RuleException
  | .exception reason => some ⟨rule, reason⟩
  | .diagnostic .. => none

/-- The diagnostic of a rule that an entry of the severity asks for. -/
def diagnostic? (rule : String) (severity : Severity) : Entry → Option Diagnostic
  | .exception _ => none
  | .diagnostic s message node =>
    if s = severity then some ⟨rule, severity, message, node⟩ else none

end Entry

namespace Report

/-- The sequence of a severity. -/
def ofSeverity (report : Report) : Severity → List Diagnostic
  | .log => report.logs
  | .warning => report.warnings
  | .error => report.errors

/-- The report of what a rule asked to record. -/
def ofEntries (rule : String) (entries : List Entry) : Report :=
  .ofEvents (entries.map (Entry.event rule))

/-- Reports, one behind the other. -/
def concat (reports : List Report) : Report :=
  reports.foldr (· ++ ·) .empty

theorem exceptions_ofEntries (rule : String) (entries : List Entry) :
    (ofEntries rule entries).exceptions = entries.filterMap (Entry.exception? rule) := by
  show (entries.map (Entry.event rule)).filterMap Event.exception? = _
  rw [List.filterMap_map]
  refine List.filterMap_congr fun entry _ => ?_
  cases entry with
  | exception reason => rfl
  | diagnostic severity message node => cases severity <;> rfl

theorem ofSeverity_ofEntries (rule : String) (entries : List Entry) (severity : Severity) :
    (ofEntries rule entries).ofSeverity severity =
      entries.filterMap (Entry.diagnostic? rule severity) := by
  cases severity <;>
    simp only [ofEntries, ofEvents, ofSeverity, List.filterMap_map] <;>
    refine List.filterMap_congr fun entry _ => ?_ <;>
    rcases entry with reason | ⟨_ | _ | _, message, node⟩ <;> rfl

theorem ofEntries_append (rule : String) (a b : List Entry) :
    ofEntries rule (a ++ b) = ofEntries rule a ++ ofEntries rule b := by
  rw [ofEntries, List.map_append, ofEvents_append]
  rfl

theorem exceptions_append (a b : Report) : (a ++ b).exceptions = a.exceptions ++ b.exceptions := rfl

theorem ofSeverity_append (a b : Report) (severity : Severity) :
    (a ++ b).ofSeverity severity = a.ofSeverity severity ++ b.ofSeverity severity := by
  cases severity <;> rfl

theorem append_assoc (a b c : Report) : a ++ b ++ c = a ++ (b ++ c) := by
  show append (append a b) c = append a (append b c)
  simp only [append, List.append_assoc]

theorem append_empty (a : Report) : a ++ empty = a := by
  show append a empty = a
  simp only [append, empty, List.append_nil]

theorem concat_append (as bs : List Report) : concat (as ++ bs) = concat as ++ concat bs := by
  induction as with
  | nil => rfl
  | cons a as ih =>
    show a ++ concat (as ++ bs) = a ++ concat as ++ concat bs
    rw [ih, append_assoc]

theorem exceptions_concat (reports : List Report) :
    (concat reports).exceptions = reports.flatMap Report.exceptions := by
  induction reports with
  | nil => rfl
  | cons report reports ih =>
    rw [List.flatMap_cons, ← ih]
    rfl

theorem ofSeverity_concat (reports : List Report) (severity : Severity) :
    (concat reports).ofSeverity severity = reports.flatMap (·.ofSeverity severity) := by
  induction reports with
  | nil => cases severity <;> rfl
  | cons report reports ih =>
    rw [List.flatMap_cons, ← ih]
    exact ofSeverity_append report (concat reports) severity

/-- The items of a report are a rule's own, each with the text that the rule
gave behind its name and in the sequence of its severity. -/
structure Attributed (rule : String) (report : Report) : Prop where
  exceptions : ∀ e ∈ report.exceptions, e.rule = rule ∧ e.message = rule ++ ": " ++ e.reason
  diagnostics : ∀ severity, ∀ d ∈ report.ofSeverity severity,
    d.rule = rule ∧ d.severity = severity ∧ d.message = rule ++ ": " ++ d.raw.text

theorem attributed_ofEntries (rule : String) (entries : List Entry) :
    (ofEntries rule entries).Attributed rule where
  exceptions e he := by
    rw [exceptions_ofEntries] at he
    obtain ⟨entry, -, hentry⟩ := List.mem_filterMap.mp he
    cases entry <;> cases hentry
    exact ⟨rfl, rfl⟩
  diagnostics severity d hd := by
    rw [ofSeverity_ofEntries] at hd
    obtain ⟨entry, -, hentry⟩ := List.mem_filterMap.mp hd
    cases entry with
    | exception reason => cases hentry
    | diagnostic s message node =>
      rw [Entry.diagnostic?] at hentry
      split at hentry <;> cases hentry
      exact ⟨rfl, rfl, rfl⟩

theorem Attributed.right {a b : Report} (h : (a ++ b).Attributed rule) : b.Attributed rule where
  exceptions e he := h.exceptions e (List.mem_append_right _ he)
  diagnostics severity d hd := by
    refine h.diagnostics severity d ?_
    rw [ofSeverity_append]
    exact List.mem_append_right _ hd

end Report

/-! ## The history of a reporter -/

namespace Operation

def entry? : Operation → Option Entry
  | .record entry => some entry
  | _ => none

def listener? : Operation → Option Listener
  | .subscribe listener => some listener
  | _ => none

/-- Whether an operation asks for a report. -/
def asks : Operation → Bool
  | .report | .take => true
  | _ => false

/-- Whether an operation only looks. -/
def looks : Operation → Bool
  | .report => true
  | _ => false

end Operation

/-- Operations and what came of each, the oldest first. -/
abbrev History := List (Operation × Reply)

namespace History

def operations (history : History) : List Operation := history.map Prod.fst

def recorded (history : History) : List Entry := history.operations.filterMap Operation.entry?

def subscribers (history : History) : List Listener :=
  history.operations.filterMap Operation.listener?

def taken (history : History) : List Report :=
  history.filterMap fun
    | (.take, reply) => reply.report?
    | _ => none

/-- What the subscriber of a number is told. An event is told to subscribers
in the order of their numbers. -/
def received (k : Nat) (history : History) : List (String × String × Event) :=
  history.filterMap fun (_, reply) => (told reply.notices)[k]?

theorem received_append (k : Nat) (a b : History) :
    received k (a ++ b) = received k a ++ received k b :=
  List.filterMap_append

theorem taken_append (a b : History) : taken (a ++ b) = taken a ++ taken b :=
  List.filterMap_append

end History

/-- An operation that is asked for, after what has happened so far. -/
structure Request where
  past : List Notice
  operation : Operation

/-- What requests ask to record. -/
def Request.entries (requests : List Request) : List Entry :=
  requests.filterMap fun request => request.operation.entry?

/-- The listeners that requests subscribe. -/
def Request.listeners (requests : List Request) : List Listener :=
  requests.filterMap fun request => request.operation.listener?

/-- What a choice takes of the first request comes before what it takes of the others. -/
theorem Request.filterMap_cons_toList {α : Type} (choice : Request → Option α) (request : Request)
    (requests : List Request) :
    (request :: requests).filterMap choice =
      (choice request).toList ++ requests.filterMap choice := by
  simp only [List.filterMap_eq_flatMap_toList, List.flatMap_cons]

theorem Request.entries_cons (request : Request) (requests : List Request) :
    entries (request :: requests) = request.operation.entry?.toList ++ entries requests :=
  filterMap_cons_toList _ request requests

theorem Request.listeners_cons (request : Request) (requests : List Request) :
    listeners (request :: requests) = request.operation.listener?.toList ++ listeners requests :=
  filterMap_cons_toList _ request requests

namespace Reporter

/-- Carries out what is asked for, in order. -/
def performAll (r : Reporter) : List Request → Reporter × History
  | [] => (r, [])
  | request :: requests =>
    let (r, reply) := r.perform request.past request.operation
    let (r, history) := r.performAll requests
    (r, (request.operation, reply) :: history)

variable (past : List Notice)

theorem performAll_cons (r : Reporter) (request : Request) (requests : List Request) :
    r.performAll (request :: requests) =
      (((r.perform request.past request.operation).1.performAll requests).1,
        (request.operation, (r.perform request.past request.operation).2) ::
          ((r.perform request.past request.operation).1.performAll requests).2) :=
  rfl

theorem performAll_append (r : Reporter) (a b : List Request) :
    r.performAll (a ++ b) =
      (((r.performAll a).1.performAll b).1, (r.performAll a).2 ++ ((r.performAll a).1.performAll b).2) := by
  induction a generalizing r with
  | nil => rfl
  | cons request a ih =>
    simp only [List.cons_append, performAll]
    rw [ih]

theorem operations_performAll (r : Reporter) (requests : List Request) :
    (r.performAll requests).2.operations = requests.map Request.operation := by
  induction requests generalizing r with
  | nil => rfl
  | cons request requests ih => exact congrArg (request.operation :: ·) (ih _)

theorem recorded_performAll (r : Reporter) (requests : List Request) :
    (r.performAll requests).2.recorded = Request.entries requests := by
  rw [History.recorded, operations_performAll, List.filterMap_map]
  rfl

theorem subscribers_performAll (r : Reporter) (requests : List Request) :
    (r.performAll requests).2.subscribers = Request.listeners requests := by
  rw [History.subscribers, operations_performAll, List.filterMap_map]
  rfl

theorem name_perform (r : Reporter) (operation : Operation) :
    (r.perform past operation).1.name = r.name := by
  cases operation <;> rfl

theorem name_performAll (r : Reporter) (requests : List Request) :
    (r.performAll requests).1.name = r.name := by
  induction requests generalizing r with
  | nil => rfl
  | cons request requests ih => exact (ih _).trans (name_perform _ r request.operation)

theorem listeners_perform (r : Reporter) (operation : Operation) :
    (r.perform past operation).1.listeners = r.listeners ++ operation.listener?.toList := by
  cases operation with
  | subscribe listener => rfl
  | record entry | report | take => exact (List.append_nil _).symm

/-- What a step moves out of a reporter or into it. -/
theorem taken_append_report_perform (r : Reporter) (operation : Operation) :
    .concat (History.taken [(operation, (r.perform past operation).2)]) ++
        (r.perform past operation).1.report =
      r.report ++ .ofEntries r.name operation.entry?.toList := by
  cases operation with
  | subscribe listener | report => exact r.report.append_empty.symm
  | take =>
    show r.report ++ .empty ++ .empty = r.report ++ .empty
    rw [Report.append_empty]
  | record entry =>
    show Report.ofEvents (entry.event r.name :: r.recorded).reverse = _
    rw [List.reverse_cons, Report.ofEvents_append]
    rfl

/-- **Nothing is lost and nothing comes twice.** -/
theorem taken_append_report (r : Reporter) (requests : List Request) :
    .concat (r.performAll requests).2.taken ++ (r.performAll requests).1.report =
      r.report ++ .ofEntries r.name (Request.entries requests) := by
  induction requests generalizing r with
  | nil => exact r.report.append_empty.symm
  | cons request requests ih =>
    obtain ⟨past, operation⟩ := request
    have hstep := r.taken_append_report_perform past operation
    have hrest := ih (r.perform past operation).1
    rw [name_perform] at hrest
    have htaken : (r.performAll (⟨past, operation⟩ :: requests)).2.taken =
        History.taken [(operation, (r.perform past operation).2)] ++
          ((r.perform past operation).1.performAll requests).2.taken :=
      History.taken_append [_] _
    calc
      _ = .concat (History.taken [(operation, (r.perform past operation).2)]) ++
            (.concat ((r.perform past operation).1.performAll requests).2.taken ++
              ((r.perform past operation).1.performAll requests).1.report) := by
        rw [htaken, Report.concat_append, Report.append_assoc]
        rfl
      _ = .concat (History.taken [(operation, (r.perform past operation).2)]) ++
            (r.perform past operation).1.report ++
              .ofEntries r.name (Request.entries requests) := by
        rw [hrest, Report.append_assoc]
      _ = _ := by rw [hstep, Report.append_assoc, ← Report.ofEntries_append, Request.entries_cons]

/-- A report is what would be left without the operation that asks for it. -/
theorem report?_perform (r : Reporter) (operation : Operation) :
    (r.perform past operation).2.report? = if operation.asks then some r.report else none := by
  cases operation <;> rfl

/-! ## Subscribers -/

theorem told_perform (r : Reporter) (operation : Operation) :
    told (r.perform past operation).2.notices =
      operation.entry?.toList.flatMap fun entry => announce r.listeners (entry.event r.name) := by
  cases operation with
  | subscribe listener | report | take => rfl
  | record entry => exact (r.told_record entry past).trans (List.append_nil _).symm

theorem received_performAll_cons (k : Nat) (r : Reporter) (request : Request)
    (requests : List Request) :
    (r.performAll (request :: requests)).2.received k =
      (request.operation.entry?.bind fun entry =>
        r.listeners[k]?.map fun listener => (listener.name, r.name, entry.event r.name)).toList ++
      ((r.perform request.past request.operation).1.performAll requests).2.received k := by
  have htold : (told (r.perform request.past request.operation).2.notices)[k]? =
      request.operation.entry?.bind fun entry =>
        r.listeners[k]?.map fun listener => (listener.name, r.name, entry.event r.name) := by
    rw [told_perform]
    cases request.operation.entry? with
    | none => rfl
    | some entry => simp [announce, Entry.rule_event]
  rw [performAll_cons, ← htold]
  simp only [History.received, List.filterMap_cons]
  cases (told (r.perform request.past request.operation).2.notices)[k]? <;> rfl

theorem listeners_performAll (r : Reporter) (requests : List Request) :
    (r.performAll requests).1.listeners = r.listeners ++ Request.listeners requests := by
  induction requests generalizing r with
  | nil => exact (List.append_nil _).symm
  | cons request requests ih =>
    rw [performAll_cons, ih, listeners_perform, List.append_assoc, Request.listeners_cons]

/-- Nobody is told anything before the subscription. -/
theorem received_of_le {requests : List Request}
    (h : r.listeners.length + (Request.listeners requests).length ≤ k) :
    (r.performAll requests).2.received k = [] := by
  induction requests generalizing r with
  | nil => rfl
  | cons request requests ih =>
    rw [Request.listeners_cons, List.length_append] at h
    have hnone : r.listeners[k]? = none := List.getElem?_eq_none (by omega)
    have hlater : ((r.perform request.past request.operation).1.performAll requests).2.received k =
        [] := by
      refine ih ?_
      rw [listeners_perform, List.length_append]
      omega
    rw [received_performAll_cons, hnone, hlater]
    cases request.operation.entry? <;> rfl

/-- A subscriber is told everything that is recorded. -/
theorem received_of_getElem? {listener : Listener} (h : r.listeners[k]? = some listener)
    (requests : List Request) :
    (r.performAll requests).2.received k =
      (Request.entries requests).map fun entry => (listener.name, r.name, entry.event r.name) := by
  induction requests generalizing r with
  | nil => rfl
  | cons request requests ih =>
    have hlistener :
        (r.perform request.past request.operation).1.listeners[k]? = some listener := by
      rw [listeners_perform, List.getElem?_append_left (List.getElem?_eq_some_iff.mp h).1, h]
    rw [received_performAll_cons, h, ih hlistener, name_perform, Request.entries_cons]
    cases request.operation.entry? <;> rfl

/-- **A subscriber is told what is recorded from its subscription on**, and
nothing else. -/
theorem received_performAll (r : Reporter) (before : List Request) (listener : Listener)
    (after : List Request) :
    (r.performAll (before ++ ⟨past, .subscribe listener⟩ :: after)).2.received
        (r.listeners.length + (Request.listeners before).length) =
      (Request.entries after).map fun entry => (listener.name, r.name, entry.event r.name) := by
  obtain ⟨r', hr'⟩ : ∃ r', r' = ((r.performAll before).1.perform past (.subscribe listener)).1 :=
    ⟨_, rfl⟩
  have hname : r'.name = r.name := by rw [hr', name_perform, name_performAll]
  have hlistener :
      r'.listeners[r.listeners.length + (Request.listeners before).length]? = some listener := by
    rw [hr', listeners_perform, listeners_performAll, ← List.length_append]
    exact List.getElem?_concat_length
  rw [performAll_append, History.received_append, received_of_le (Nat.le_refl _),
    received_performAll_cons, ← hr', received_of_getElem? hlistener, hname]
  rfl

/-! ## Lives of reporters -/

/-- A reporter for a rule that has gone through a history. -/
def Lives (rule : String) (history : History) (r : Reporter) : Prop :=
  ∃ requests, (new rule).performAll requests = (r, history)

variable {history before after : History}

theorem Lives.name_eq (h : Lives rule history r) : r.name = rule := by
  obtain ⟨requests, h⟩ := h
  have hname := (new rule).name_performAll requests
  rw [h] at hname
  exact hname

theorem Lives.taken_append_report (h : Lives rule history r) :
    .concat history.taken ++ r.report = .ofEntries rule history.recorded := by
  obtain ⟨requests, h⟩ := h
  have hall := (new rule).taken_append_report requests
  rw [← recorded_performAll, h] at hall
  exact hall

theorem Lives.listeners_eq (h : Lives rule history r) : r.listeners = history.subscribers := by
  obtain ⟨requests, h⟩ := h
  have hall := (new rule).listeners_performAll requests
  rw [← subscribers_performAll, h] at hall
  exact hall

/-- The requests of a history fall apart where it does. -/
theorem exists_requests {operation : Operation} {reply : Reply} {requests : List Request}
    (h : (new rule).performAll requests = (r, before ++ (operation, reply) :: after)) :
    ∃ (first : List Request) (past : List Notice) (rest : List Request),
      requests = first ++ ⟨past, operation⟩ :: rest ∧
      ((new rule).performAll first).2 = before ∧
      (((new rule).performAll first).1.perform past operation).2 = reply ∧
      ((((new rule).performAll first).1.perform past operation).1.performAll rest).2 = after := by
  have hoperations := (new rule).operations_performAll requests
  rw [h, History.operations, List.map_append, List.map_cons] at hoperations
  obtain ⟨first, others, rfl, hfirst, hothers⟩ := List.map_eq_append_iff.mp hoperations.symm
  obtain ⟨⟨past, _⟩, rest, rfl, rfl, -⟩ := List.map_eq_cons_iff.mp hothers
  rw [performAll_append, performAll_cons] at h
  have hlength : ((new rule).performAll first).2.length = before.length := by
    have hlengths := congrArg List.length ((new rule).operations_performAll first)
    rw [hfirst] at hlengths
    simpa [History.operations] using hlengths
  obtain ⟨hbefore, hrest⟩ := List.append_inj (congrArg Prod.snd h) hlength
  rw [List.cons.injEq, Prod.mk.injEq] at hrest
  exact ⟨first, past, rest, rfl, hbefore, hrest.1.2, hrest.2⟩

/-- What a reporter replied at some time, it replied after the history up to
then. -/
theorem Lives.split {operation : Operation} {reply : Reply}
    (h : Lives rule (before ++ (operation, reply) :: after) r) :
    ∃ earlier past, Lives rule before earlier ∧ reply = (earlier.perform past operation).2 := by
  obtain ⟨requests, h⟩ := h
  obtain ⟨first, past, rest, rfl, hbefore, hreply, -⟩ := exists_requests h
  exact ⟨_, past, ⟨first, Prod.ext rfl hbefore⟩, hreply.symm⟩

/-- A reply holds a report exactly if it was asked for. -/
theorem Lives.report_eq {operation : Operation} {reply : Reply}
    (h : Lives rule (before ++ (operation, reply) :: after) r) :
    (operation.asks = true ↔ reply.report?.isSome = true) ∧
      ∀ report ∈ reply.report?, .concat before.taken ++ report = .ofEntries rule before.recorded := by
  obtain ⟨earlier, past, hearlier, rfl⟩ := h.split
  rw [report?_perform]
  split
  · rename_i hasks
    refine ⟨by simp [hasks], ?_⟩
    rintro _ ⟨⟩
    exact hearlier.taken_append_report
  · rename_i hasks
    exact ⟨by simp [hasks], nofun⟩

/-- A subscriber hears what the history records behind it. -/
theorem Lives.received_eq {listener : Listener} {reply : Reply}
    (h : Lives rule (before ++ (.subscribe listener, reply) :: after) r) :
    History.received before.subscribers.length
        (before ++ (.subscribe listener, reply) :: after) =
      after.recorded.map fun entry => (listener.name, rule, entry.event rule) := by
  obtain ⟨requests, h⟩ := h
  obtain ⟨first, past, rest, rfl, rfl, -, rfl⟩ := exists_requests h
  have hreceived := (new rule).received_performAll past first listener rest
  rw [h] at hreceived
  rw [subscribers_performAll, recorded_performAll]
  simpa [new] using hreceived

/-- What a reporter has to show for its history. -/
structure Recounts (r : Reporter) (history : History) : Prop where
  /-- What was taken and what is left is what was recorded, in order. -/
  exceptions : history.taken.flatMap Report.exceptions ++ r.report.exceptions =
    history.recorded.filterMap (Entry.exception? r.name)
  diagnostics : ∀ severity,
    history.taken.flatMap (·.ofSeverity severity) ++ r.report.ofSeverity severity =
      history.recorded.filterMap (Entry.diagnostic? r.name severity)
  /-- The same holds of every report at the time when it was asked for. -/
  shown : ∀ (before : History) operation reply after,
    history = before ++ (operation, reply) :: after →
      (operation.asks = true ↔ reply.report?.isSome = true) ∧
        ∀ report ∈ reply.report?, .concat before.taken ++ report = .ofEntries r.name before.recorded
  /-- An item is told to every subscriber, in the order of the subscriptions. -/
  announced : ∀ (before : History) operation reply after,
    history = before ++ (operation, reply) :: after →
      told reply.notices = operation.entry?.toList.flatMap fun entry =>
        announce before.subscribers (entry.event r.name)
  /-- Every subscription hears what is recorded after it. -/
  heard : ∀ (before : History) listener reply (after : History),
    history = before ++ (.subscribe listener, reply) :: after →
      history.received before.subscribers.length =
        after.recorded.map fun entry => (listener.name, r.name, entry.event r.name)
  attributed : r.report.Attributed r.name ∧
    ∀ done ∈ history, ∀ report ∈ done.2.report?, report.Attributed r.name

theorem Lives.recounts (h : Lives rule history r) : r.Recounts history := by
  obtain rfl := h.name_eq
  have hall := h.taken_append_report
  have hright {a b : Report} {entries : List Entry} (hab : a ++ b = .ofEntries r.name entries) :
      b.Attributed r.name := by
    have hboth := Report.attributed_ofEntries r.name entries
    rw [← hab] at hboth
    exact hboth.right
  exact {
    exceptions := by
      rw [← Report.exceptions_concat, ← Report.exceptions_append, hall, Report.exceptions_ofEntries]
    diagnostics := fun severity => by
      rw [← Report.ofSeverity_concat, ← Report.ofSeverity_append, hall, Report.ofSeverity_ofEntries]
    shown := by
      rintro before operation reply after rfl
      exact h.report_eq
    announced := by
      rintro before operation reply after rfl
      obtain ⟨earlier, past, hearlier, rfl⟩ := h.split
      rw [told_perform, hearlier.listeners_eq, hearlier.name_eq]
    heard := by
      rintro before listener reply after rfl
      exact h.received_eq
    attributed := by
      refine ⟨hright hall, fun done hdone report hreport => ?_⟩
      obtain ⟨before, after, rfl⟩ := List.append_of_mem hdone
      exact hright (h.report_eq.2 report hreport) }

end Reporter

/-! ## Desks -/

namespace Desk

variable {desk : Desk} {number : Nat} {handle : String}

/-- What was done with the reporter of a number. -/
def historyOf (number : Nat) (deeds : List Deed) : History :=
  (deeds.filter (·.number = number)).map fun deed => (deed.operation, deed.reply)

theorem historyOf_append (number : Nat) (a b : List Deed) :
    historyOf number (a ++ b) = historyOf number a ++ historyOf number b := by
  rw [historyOf, List.filter_append, List.map_append]
  rfl

theorem run_cons (desk : Desk) (action : Action) (actions : List Action) :
    desk.run (action :: actions) = (((desk.act action).1.run actions).1,
      (desk.act action).2.toList ++ ((desk.act action).1.run actions).2) := rfl

theorem find?_eq_some_iff :
    desk.find? handle = some (number, r) ↔
      desk.handles.lookup handle = some number ∧ desk.reporters[number]? = some r := by
  simp only [find?, Option.bind_eq_bind, Option.bind_eq_some_iff, Option.pure_def, Option.some.injEq,
    Prod.mk.injEq]
  constructor
  · rintro ⟨n, hn, r', hr', rfl, rfl⟩
    exact ⟨hn, hr'⟩
  · rintro ⟨hn, hr⟩
    exact ⟨number, hn, r, hr, rfl, rfl⟩

/-- What an action does to a reporter that is there, it does by requests to
it. -/
theorem act_of_some (h : desk.reporters[number]? = some r) (action : Action) :
    ∃ requests, (desk.act action).1.reporters[number]? = some (r.performAll requests).1 ∧
      historyOf number (desk.act action).2.toList = (r.performAll requests).2 := by
  cases action with
  | create handle rule =>
    refine ⟨[], ?_, rfl⟩
    show (desk.reporters ++ [.new rule])[number]? = some r
    rw [List.getElem?_append_left (List.getElem?_eq_some_iff.mp h).1, h]
  | clone handle source =>
    refine ⟨[], ?_⟩
    rw [act]
    split <;> exact ⟨h, rfl⟩
  | perform handle operation =>
    rw [act]
    split
    · exact ⟨[], h, rfl⟩
    · rename_i n r' hfind
      obtain ⟨-, hr'⟩ := find?_eq_some_iff.mp hfind
      by_cases hn : n = number
      · subst hn
        obtain rfl : r' = r := by simpa [h] using hr'.symm
        refine ⟨[⟨desk.journal, operation⟩], ?_, by simp [historyOf]; rfl⟩
        exact List.getElem?_set_self (List.getElem?_eq_some_iff.mp h).1
      · refine ⟨[], ?_, by simp [historyOf, hn]; rfl⟩
        rw [List.getElem?_set_ne hn]
        exact h

/-- An action makes reporters with nothing recorded. -/
theorem act_of_none (h : desk.reporters[number]? = none) (action : Action) :
    historyOf number (desk.act action).2.toList = [] ∧
      ∀ r, (desk.act action).1.reporters[number]? = some r → ∃ rule, r = .new rule := by
  have habsent : ∀ r, desk.reporters[number]? = some r → ∃ rule, r = .new rule := by simp [h]
  cases action with
  | create handle rule =>
    refine ⟨rfl, fun r hr => ⟨rule, ?_⟩⟩
    have hmade : (desk.reporters ++ [Reporter.new rule])[number]? = some r := hr
    rw [List.getElem?_append_right (List.getElem?_eq_none_iff.mp h)] at hmade
    exact List.mem_singleton.mp (List.mem_of_getElem? hmade)
  | clone handle source =>
    rw [act]
    split <;> exact ⟨rfl, habsent⟩
  | perform handle operation =>
    rw [act]
    split
    · exact ⟨rfl, habsent⟩
    · rename_i n r' hfind
      obtain ⟨-, hr'⟩ := find?_eq_some_iff.mp hfind
      have hn : n ≠ number := by
        rintro rfl
        simp [h] at hr'
      refine ⟨by simp [historyOf, hn], fun r hr => habsent r ?_⟩
      rw [List.getElem?_set_ne hn] at hr
      exact hr

theorem run_of_some (h : desk.reporters[number]? = some r) (actions : List Action) :
    ∃ requests, (desk.run actions).1.reporters[number]? = some (r.performAll requests).1 ∧
      historyOf number (desk.run actions).2 = (r.performAll requests).2 := by
  induction actions generalizing desk r with
  | nil => exact ⟨[], h, rfl⟩
  | cons action actions ih =>
    obtain ⟨first, hfirst, hdeed⟩ := act_of_some h action
    obtain ⟨rest, hrest, hdeeds⟩ := ih hfirst
    refine ⟨first ++ rest, ?_, ?_⟩
    · rw [run_cons, Reporter.performAll_append, hrest]
    · rw [run_cons, Reporter.performAll_append, historyOf_append, hdeed, hdeeds]

/-- A reporter that was made at a desk has lived through what was done with
it. -/
theorem lives_of_run (h : desk.reporters[number]? = none) (actions : List Action)
    (hr : (desk.run actions).1.reporters[number]? = some r) :
    ∃ rule, r.Lives rule (historyOf number (desk.run actions).2) := by
  induction actions generalizing desk with
  | nil => simp [run, h] at hr
  | cons action actions ih =>
    obtain ⟨hdeed, hmade⟩ := act_of_none h action
    rw [run_cons, historyOf_append, hdeed, List.nil_append]
    cases hnow : (desk.act action).1.reporters[number]? with
    | none => exact ih hnow hr
    | some r₀ =>
      obtain ⟨rule, rfl⟩ := hmade r₀ hnow
      obtain ⟨requests, hend, hhistory⟩ := run_of_some hnow actions
      have hlast : ((Reporter.new rule).performAll requests).1 = r :=
        Option.some.inj (hend.symm.trans hr)
      exact ⟨rule, requests, Prod.ext hlast hhistory.symm⟩

/-! ## Looking -/

/-- Whether an action only looks. -/
def Action.looks : Action → Bool
  | .perform _ operation => operation.looks
  | _ => false

/-- A look leaves a desk as it is, and is a look to whom it is done. -/
theorem act_of_looks {action : Action} (h : action.looks = true) (desk : Desk) :
    (desk.act action).1 = desk ∧ ∀ deed ∈ (desk.act action).2, deed.operation.looks = true := by
  cases action with
  | create | clone => cases h
  | perform handle operation =>
    cases operation with
    | subscribe | record | take => cases h
    | report =>
      rw [act]
      split
      · exact ⟨rfl, nofun⟩
      · rename_i number r hfind
        obtain ⟨-, hr⟩ := find?_eq_some_iff.mp hfind
        obtain ⟨hlt, rfl⟩ := List.getElem?_eq_some_iff.mp hr
        refine ⟨?_, ?_⟩
        · simp [Reporter.perform]
        · rintro _ ⟨⟩
          rfl

theorem looks_of_act {action : Action} (h : action.looks = false) (desk : Desk) :
    ∀ deed ∈ (desk.act action).2, deed.operation.looks = false := by
  cases action with
  | create => exact nofun
  | clone handle source =>
    rw [act]
    split <;> exact nofun
  | perform handle operation =>
    rw [act]
    split
    · exact nofun
    · rintro _ ⟨⟩
      exact h

/-- Looking changes nothing, and nothing that comes of other actions. -/
theorem run_filter_looks (desk : Desk) (actions : List Action) :
    desk.run (actions.filter (!·.looks)) =
      ((desk.run actions).1, (desk.run actions).2.filter (!·.operation.looks)) := by
  induction actions generalizing desk with
  | nil => rfl
  | cons action actions ih =>
    rw [run_cons, List.filter_append]
    cases hlooks : action.looks with
    | true =>
      obtain ⟨hdesk, hdeed⟩ := act_of_looks hlooks desk
      have hnone : (desk.act action).2.toList.filter (!·.operation.looks) = [] := by
        simpa [List.filter_eq_nil_iff] using hdeed
      rw [List.filter_cons_of_neg (by simp [hlooks]), hnone, hdesk, ih, List.nil_append]
    | false =>
      have hdeed := looks_of_act hlooks desk
      have hall : (desk.act action).2.toList.filter (!·.operation.looks) =
          (desk.act action).2.toList := by
        simpa [List.filter_eq_self] using hdeed
      rw [List.filter_cons_of_pos (by simp [hlooks]), run_cons, hall, ih]

/-- **Every reporter has everything to show for its history**, whichever
handles it was used by; all else would be the same if nobody had looked. A
clone of a handle stands for the same reporter, and what is done by a handle
goes into the history of that one. -/
theorem recounts_run (actions : List Action) :
    (∀ number (r : Reporter), (empty.run actions).1.reporters[number]? = some r →
      r.Recounts (historyOf number (empty.run actions).2)) ∧
    (empty.run (actions.filter (!·.looks)) =
      ((empty.run actions).1, (empty.run actions).2.filter (!·.operation.looks))) ∧
    ∀ handle number r, (empty.run actions).1.find? handle = some (number, r) →
      (∀ clone, ((empty.run actions).1.act (.clone clone handle)).1.find? clone = some (number, r)) ∧
      ∀ operation, ((empty.run actions).1.act (.perform handle operation)).2.map
        (fun deed => (deed.number, deed.operation)) = some (number, operation) := by
  refine ⟨?_, run_filter_looks empty actions, ?_⟩
  · intro number r hr
    have hnone : empty.reporters[number]? = none := rfl
    obtain ⟨rule, hlives⟩ := lives_of_run hnone actions hr
    exact hlives.recounts
  · intro handle number r hfind
    constructor
    · intro clone
      rw [act, hfind]
      rw [find?_eq_some_iff] at hfind ⊢
      exact ⟨by simp, hfind.2⟩
    · intro operation
      rw [act, hfind]
      rfl

/-- A reporter used by two handles, with listeners of which the first panics
at all it is told after the first event. -/
def sharedActions : List Action := [
  .create "first" "custom",
  .clone "second" "first",
  .perform "first" (.subscribe ⟨"weary", fun telling =>
    if (toldTo "weary" telling.past).isEmpty then none else some .other⟩),
  .perform "second" (.record (.exception "boom")),
  .perform "second" .take,
  .perform "first" (.subscribe ⟨"calm", fun _ => none⟩),
  .perform "second" (.record (.diagnostic .warning (.ofText "careful") none)),
  .perform "first" .report]

theorem recounts_sharedActions :
    ∃ r history, (empty.run sharedActions).1.reporters[0]? = some r ∧
      historyOf 0 (empty.run sharedActions).2 = history ∧ r.Recounts history ∧
      history.recorded.length = 2 ∧
      history.taken.flatMap Report.exceptions = [⟨"custom", "boom"⟩] ∧
      (r.report.ofSeverity .warning).map Diagnostic.message = ["custom: careful"] ∧
      (history.received 0).map (fun e => e.2.2.message) = ["custom: boom", "custom: careful"] ∧
      (history.received 1).map (fun e => e.2.2.message) = ["custom: careful"] ∧
      warned (empty.run sharedActions).1.journal = ["[custom] Listener panicked: rule panicked"] :=
  ⟨_, _, rfl, rfl, (recounts_run sharedActions).1 0 _ rfl, rfl, rfl, rfl, rfl, rfl, rfl⟩

end Desk

end VectorLint
