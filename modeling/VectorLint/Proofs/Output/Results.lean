/-
What the JSON results of a run tell. Compact and pretty, they are the text
of one value; and that value gives back, file by file, everything that the
report of the file says (`format_recovers`): `readResults?` is a left inverse
of `JsonFormat.resultsValue` up to `FileReport.view`.

Severities tell the three sequences of a report apart again, and the node of
a diagnostic shows by its line, column and source line, all there or all
missing (`isSome_get?_diagnosticValue`).
-/
import VectorLint.Output.Json
import VectorLint.Proofs.Document.Location
import VectorLint.Proofs.Json.RoundTrip
import VectorLint.Proofs.Run.Instances

namespace VectorLint

/-! ## What there is to tell -/

structure DiagnosticView where
  rule : String
  severity : Severity
  message : String
  parts : List Json.Value
  line : Option Nat
  column : Option Nat
  sourceLine : Option String

def Diagnostic.view (d : Diagnostic) : DiagnosticView where
  rule := d.rule
  severity := d.severity
  message := d.message
  parts := d.raw.parts
  line := d.node.map (·.node.position.line)
  column := d.node.map (·.node.position.column)
  sourceLine := d.node.bind NodeRef.sourceLine?

structure FileView where
  file : String
  passed : Bool
  failure : Option String
  /-- Rules and messages. -/
  exceptions : List (String × String)
  errors : List DiagnosticView
  warnings : List DiagnosticView
  logs : List DiagnosticView

def FileReport.view (f : FileReport) : FileView :=
  match f.outcome with
  | .ok r => ⟨f.input, f.passed, none, r.exceptions.map fun e => (e.rule, e.message),
      r.errors.map Diagnostic.view, r.warnings.map Diagnostic.view, r.logs.map Diagnostic.view⟩
  | .error failure => ⟨f.input, f.passed, some failure.message, [], [], [], []⟩

/-! ## Reading results -/

def Json.Value.asArray? : Json.Value → Option (List Json.Value)
  | .array items => some items
  | _ => none

def Severity.ofText? : String → Option Severity
  | "log" => some .log
  | "warning" => some .warning
  | "error" => some .error
  | _ => none

namespace JsonFormat

def readDiagnostic? (v : Json.Value) : Option DiagnosticView := do
  let rule ← (← v.get? "rule").asString?
  let severity ← Severity.ofText? (← (← v.get? "severity").asString?)
  let message ← (← v.get? "message").asString?
  let parts ← (← v.get? "parts").asArray?
  return ⟨rule, severity, message, parts, (v.get? "line").bind Json.Value.asNat?,
    (v.get? "column").bind Json.Value.asNat?, (v.get? "source_line").bind Json.Value.asString?⟩

def readException? (v : Json.Value) : Option (String × String) := do
  return (← (← v.get? "rule").asString?, ← (← v.get? "message").asString?)

def readFile? (v : Json.Value) : Option FileView := do
  let file ← (← v.get? "file").asString?
  let passed ← (← v.get? "passed").asBool?
  let exceptions ← (← (← v.get? "exceptions").asArray?).mapM readException?
  let diagnostics ← (← (← v.get? "diagnostics").asArray?).mapM readDiagnostic?
  return ⟨file, passed, (v.get? "parse_error").bind Json.Value.asString?, exceptions,
    diagnostics.filter (·.severity = .error), diagnostics.filter (·.severity = .warning),
    diagnostics.filter (·.severity = .log)⟩

def readResults? (v : Json.Value) : Option (List FileView) := do
  (← (← v.get? "files").asArray?).mapM readFile?

end JsonFormat

/-! ## What can be told -/

/-- The parts of every diagnostic are read back as they are. -/
def FileReport.Legible (f : FileReport) : Prop :=
  ∀ r, f.outcome = .ok r → ∀ d ∈ r.errors ++ r.warnings ++ r.logs, ∀ v ∈ d.raw.parts, v.Plain

/-- The parts of a diagnostic have no double, nor a key twice, and a node is one
of a document that was read, from a text whose length fits in 64 bits. -/
structure Diagnostic.Held (d : Diagnostic) : Prop where
  parts : ∀ v ∈ d.raw.parts, v.Plain
  node : ∀ r ∈ d.node, ∃ source, Document.parse source = .ok r.document ∧
    Text.byteLength source < 0x10000000000000000

/-- A parse failure, or the report of a run. -/
structure FileReport.Held (f : FileReport) : Prop where
  run : ∀ r, f.outcome = .ok r → ∃ (l : Linter) (read : ReadText) (input : String),
    (l.run read input).outcome = .ok r
  diagnostics : ∀ r, f.outcome = .ok r → ∀ d ∈ r.errors ++ r.warnings ++ r.logs, d.Held

theorem FileReport.Held.legible {f : FileReport} (h : f.Held) : f.Legible :=
  fun r hr d hd => (h.diagnostics r hr d hd).parts

namespace Json

theorem Value.asNat?_ofNat {n : Nat} (h : n < 0x10000000000000000) : (ofNat n).asNat? = some n := by
  have hlow : -0x8000000000000000 ≤ (n : Int) := by omega
  have hhigh : (n : Int) < 0x10000000000000000 := by omega
  have hfits : Integer.ofInt? n = some ⟨n, hlow, hhigh⟩ := Integer.ofInt?_val ⟨n, hlow, hhigh⟩
  have hsign : (0 : Int) ≤ n := Int.natCast_nonneg n
  rw [ofNat, hfits]
  show (if (0 : Int) ≤ n then some (n : Int).toNat else none) = _
  rw [if_pos hsign, Int.toNat_natCast]

/-- The numbers are kept behind their lemma, here and below: to compute one
would be to count up to its bound. -/
theorem Value.bind_map_ofNat {α : Type} {o : Option α} {f : α → Nat}
    (h : ∀ a ∈ o, f a < 0x10000000000000000) : (o.map fun a => ofNat (f a)).bind asNat? = o.map f := by
  cases o with
  | none => rfl
  | some a => rw [Option.map_some, Option.bind_some, asNat?_ofNat (h a rfl), Option.map_some]

theorem Value.Plain.ofNat (n : Nat) : (Value.ofNat n).Plain := by
  rw [Value.ofNat]
  cases Integer.ofInt? n with
  | none => exact .null
  | some i => exact .integer i

@[simp] theorem Value.depth_string (s : String) : (string s).depth = 0 := by
  rw [depth]

@[simp] theorem Value.depth_bool (b : Bool) : (bool b).depth = 0 := by
  rw [depth]

@[simp] theorem Value.depth_ofNat (n : Nat) : (ofNat n).depth = 0 := by
  rw [ofNat]
  cases Integer.ofInt? n with
  | none =>
    show null.depth = 0
    rw [depth]
  | some i =>
    show (number (.integer i)).depth = 0
    rw [depth]

theorem depthItems_le_iff {items : List Value} {n : Nat} :
    depthItems items ≤ n ↔ ∀ v ∈ items, v.depth ≤ n := by
  induction items with
  | nil => simp [depthItems]
  | cons v items ih => rw [depthItems, Nat.max_le, ih, List.forall_mem_cons]

theorem depthMembers_le_iff {members : List (String × Value)} {n : Nat} :
    depthMembers members ≤ n ↔ ∀ m ∈ members, m.2.depth ≤ n := by
  induction members with
  | nil => simp [depthMembers]
  | cons m members ih => rw [depthMembers, Nat.max_le, ih, List.forall_mem_cons]

end Json

namespace NodeRef

theorem get?_id (r : NodeRef) : r.document.get? r.id = some r.node :=
  Array.getElem?_eq_getElem r.id.isLt

end NodeRef

namespace Diagnostic

variable {d : Diagnostic}

/-- The position of a node fits in 64 bits, and its line is there. -/
theorem Held.located (h : d.Held) {r : NodeRef} (hr : d.node = some r) :
    r.node.position.line < 0x10000000000000000 ∧ r.node.position.column < 0x10000000000000000 ∧
      ∃ text, r.sourceLine? = some text := by
  obtain ⟨source, parsed, hsize⟩ := h.node r hr
  obtain ⟨hline, hcolumn⟩ := Document.position_le_byteLength parsed r.get?_id
  exact ⟨Nat.lt_of_le_of_lt hline hsize, Nat.lt_of_le_of_lt hcolumn hsize,
    Document.exists_sourceLine parsed r.get?_id⟩

end Diagnostic

theorem Severity.ofText?_text (s : Severity) : ofText? s.text = some s := by
  cases s <;> rfl

namespace JsonFormat

/-- The members of a diagnostic are found by their keys, whether the last three
are there or not. -/
theorem readDiagnostic?_object (rule message : String) (severity : Severity)
    (parts : List Json.Value) (line column text : Option Json.Value) :
    readDiagnostic? (.object ([("rule", .string rule), ("severity", .string severity.text),
      ("message", .string message), ("parts", .array parts)] ++ optional "line" line ++
      optional "column" column ++ optional "source_line" text)) =
    some ⟨rule, severity, message, parts, line.bind Json.Value.asNat?,
      column.bind Json.Value.asNat?, text.bind Json.Value.asString?⟩ := by
  cases line <;> cases column <;> cases text <;>
    simp [readDiagnostic?, optional, Json.Value.get?, Entries.lookup_cons, List.lookup_nil,
      Json.Value.asString?, Json.Value.asArray?, Severity.ofText?_text]

theorem readDiagnostic?_diagnosticValue {d : Diagnostic} (h : d.Held) :
    readDiagnostic? (diagnosticValue d) = some d.view := by
  have hline : (d.position?.map fun p => Json.Value.ofNat p.line).bind Json.Value.asNat? =
      d.position?.map (·.line) := by
    refine Json.Value.bind_map_ofNat fun p hp => ?_
    obtain ⟨r, hr, rfl⟩ := Option.map_eq_some_iff.mp hp
    exact (h.located hr).1
  have hcolumn : (d.position?.map fun p => Json.Value.ofNat p.column).bind Json.Value.asNat? =
      d.position?.map (·.column) := by
    refine Json.Value.bind_map_ofNat fun p hp => ?_
    obtain ⟨r, hr, rfl⟩ := Option.map_eq_some_iff.mp hp
    exact (h.located hr).2.1
  have hsource : ((d.node.bind NodeRef.sourceLine?).map Json.Value.string).bind Json.Value.asString? =
      d.node.bind NodeRef.sourceLine? := by
    cases d.node.bind NodeRef.sourceLine? <;> rfl
  rw [diagnosticValue, readDiagnostic?_object, hline, hcolumn, hsource]
  simp only [Diagnostic.view, Diagnostic.position?, Option.map_map]
  rfl

theorem readException?_exceptionValue (e : RuleException) :
    readException? (exceptionValue e) = some (e.rule, e.message) := by
  simp [readException?, exceptionValue, Json.Value.get?, Entries.lookup_cons, Json.Value.asString?]

/-- The members of a file, of which the failure may be missing. -/
def fileMembers (f : FileReport) (failure : Option String) (exceptions : List RuleException)
    (diagnostics : List Diagnostic) : List (String × Json.Value) :=
  [("file", .string f.input), ("passed", .bool f.passed)] ++
    optional "parse_error" (failure.map .string) ++
    [("exceptions", .array (exceptions.map exceptionValue)),
      ("diagnostics", .array (diagnostics.map diagnosticValue))]

theorem fileValue_of_error {f : FileReport} {failure : ParseFailure} (h : f.outcome = .error failure) :
    fileValue f = .object (fileMembers f (some failure.message) [] []) := by
  simp only [fileValue, h, fileMembers]

theorem fileValue_of_ok {f : FileReport} {r : Report} (h : f.outcome = .ok r) :
    fileValue f = .object (fileMembers f none r.exceptions (r.errors ++ r.warnings ++ r.logs)) := by
  simp only [fileValue, h, fileMembers]

theorem mapM_map_eq_some {α β γ : Type} {g : β → Option γ} {f : α → β} {h : α → γ} {xs : List α}
    (hx : ∀ x ∈ xs, g (f x) = some (h x)) : (xs.map f).mapM g = some (xs.map h) := by
  induction xs with
  | nil => rfl
  | cons x xs ih =>
    obtain ⟨hfirst, hrest⟩ := List.forall_mem_cons.mp hx
    rw [List.map_cons, List.mapM_cons, hfirst, ih hrest]
    rfl

theorem filter_views {t : Severity} {ds : List Diagnostic} (h : ∀ d ∈ ds, d.severity = t)
    (s : Severity) : (ds.map Diagnostic.view).filter (·.severity = s) =
      if t = s then ds.map Diagnostic.view else [] := by
  split
  · rename_i hs
    simpa [List.filter_eq_self, Diagnostic.view, hs] using h
  · rename_i hs
    have hother (d : Diagnostic) (hd : d ∈ ds) : d.severity ≠ s := h d hd ▸ hs
    simpa [List.filter_eq_nil_iff, Diagnostic.view] using hother

/-- The severities take the diagnostics of a report apart again. -/
theorem filter_views_graded {r : Report} (h : r.Graded) (s : Severity) :
    ((r.errors ++ r.warnings ++ r.logs).map Diagnostic.view).filter (·.severity = s) =
      (if .error = s then r.errors.map Diagnostic.view else []) ++
      (if .warning = s then r.warnings.map Diagnostic.view else []) ++
      (if .log = s then r.logs.map Diagnostic.view else []) := by
  rw [List.map_append, List.map_append, List.filter_append, List.filter_append,
    filter_views h.errors, filter_views h.warnings, filter_views h.logs]

theorem readFile?_fileMembers (f : FileReport) (failure : Option String)
    (exceptions : List RuleException) {diagnostics : List Diagnostic}
    (h : ∀ d ∈ diagnostics, d.Held) :
    readFile? (.object (fileMembers f failure exceptions diagnostics)) =
      some ⟨f.input, f.passed, failure, exceptions.map fun e => (e.rule, e.message),
        (diagnostics.map Diagnostic.view).filter (·.severity = .error),
        (diagnostics.map Diagnostic.view).filter (·.severity = .warning),
        (diagnostics.map Diagnostic.view).filter (·.severity = .log)⟩ := by
  have hexceptions : (exceptions.map exceptionValue).mapM readException? =
      some (exceptions.map fun e => (e.rule, e.message)) :=
    mapM_map_eq_some fun e _ => readException?_exceptionValue e
  have hdiagnostics : (diagnostics.map diagnosticValue).mapM readDiagnostic? =
      some (diagnostics.map Diagnostic.view) :=
    mapM_map_eq_some fun d hd => readDiagnostic?_diagnosticValue (h d hd)
  cases failure <;>
    simp [readFile?, fileMembers, optional, Json.Value.get?, Entries.lookup_cons, List.lookup_nil,
      Json.Value.asString?, Json.Value.asArray?, Json.Value.asBool?, hexceptions, hdiagnostics]

theorem readFile?_fileValue {f : FileReport} (h : f.Held) : readFile? (fileValue f) = some f.view := by
  cases houtcome : f.outcome with
  | error failure =>
    rw [fileValue_of_error houtcome, readFile?_fileMembers _ _ _ (List.forall_mem_nil _),
      FileReport.view, houtcome]
    rfl
  | ok r =>
    obtain ⟨l, read, input, hrun⟩ := h.run r houtcome
    have hgraded := Linter.graded_of_run hrun
    rw [fileValue_of_ok houtcome, readFile?_fileMembers _ _ _ (h.diagnostics r houtcome),
      FileReport.view, houtcome]
    simp only [filter_views_graded hgraded, reduceCtorEq, if_true, if_false, List.append_nil,
      List.nil_append]

/-! ## Results are read as they are written -/

theorem sublist_optional (key : String) (v : Option Json.Value) :
    ((optional key v).map Prod.fst).Sublist [key] := by
  cases v with
  | none => exact List.nil_sublist _
  | some v => exact .refl _

theorem plain_optional {key : String} {o : Option Json.Value} (h : ∀ v ∈ o, v.Plain) :
    ∀ m ∈ optional key o, m.2.Plain := by
  cases o with
  | none => exact List.forall_mem_nil _
  | some v => exact List.forall_mem_singleton.mpr (h v rfl)

theorem plain_diagnosticValue {d : Diagnostic} (h : ∀ v ∈ d.raw.parts, v.Plain) :
    (diagnosticValue d).Plain := by
  refine .object ?_ ?_
  · simp only [List.map_append]
    have hkeys : ["rule", "severity", "message", "parts", "line", "column", "source_line"].Nodup := by
      decide
    exact hkeys.sublist ((((List.Sublist.refl _).append (sublist_optional _ _)).append
      (sublist_optional _ _)).append (sublist_optional _ _))
  · simp only [List.forall_mem_append, List.forall_mem_cons]
    refine ⟨⟨⟨⟨.string _, .string _, .string _, .array h, List.forall_mem_nil _⟩,
      plain_optional ?_⟩, plain_optional ?_⟩, plain_optional ?_⟩ <;> intro v hv <;>
      obtain ⟨a, -, rfl⟩ := Option.map_eq_some_iff.mp hv
    · exact .ofNat a.line
    · exact .ofNat a.column
    · exact .string a

theorem plain_exceptionValue (e : RuleException) : (exceptionValue e).Plain := by
  refine .object (by show ["rule", "message"].Nodup; decide) ?_
  simp only [List.forall_mem_cons]
  exact ⟨.string _, .string _, List.forall_mem_nil _⟩

theorem plain_summaryValue (s : Summary) : (summaryValue s).Plain := by
  have hkeys : ["files_processed", "files_failed", "exception_count", "error_count",
      "warning_count"].Nodup := by
    decide
  refine .object hkeys ?_
  simp only [List.forall_mem_cons]
  exact ⟨.ofNat _, .ofNat _, .ofNat _, .ofNat _, .ofNat _, List.forall_mem_nil _⟩

theorem plain_fileObject {f : FileReport} {failure : Option String}
    {exceptions : List RuleException} {diagnostics : List Diagnostic}
    (h : ∀ d ∈ diagnostics, ∀ v ∈ d.raw.parts, v.Plain) :
    (Json.Value.object (fileMembers f failure exceptions diagnostics)).Plain := by
  have hkeys : ["file", "passed", "parse_error", "exceptions", "diagnostics"].Nodup := by decide
  refine .object ?_ ?_
  · simp only [fileMembers, List.map_append]
    exact hkeys.sublist (((List.Sublist.refl _).append (sublist_optional _ _)).append (.refl _))
  · simp only [fileMembers, List.forall_mem_append, List.forall_mem_cons]
    refine ⟨⟨⟨.string _, .bool _, List.forall_mem_nil _⟩, plain_optional ?_⟩, .array ?_, .array ?_,
      List.forall_mem_nil _⟩
    · intro v hv
      obtain ⟨message, -, rfl⟩ := Option.map_eq_some_iff.mp hv
      exact .string message
    · exact List.forall_mem_map.mpr fun e _ => plain_exceptionValue e
    · exact List.forall_mem_map.mpr fun d hd => plain_diagnosticValue (h d hd)

theorem plain_fileValue {f : FileReport} (h : f.Legible) : (fileValue f).Plain := by
  cases houtcome : f.outcome with
  | error failure =>
    rw [fileValue_of_error houtcome]
    exact plain_fileObject (List.forall_mem_nil _)
  | ok r =>
    rw [fileValue_of_ok houtcome]
    exact plain_fileObject (h r houtcome)

theorem plain_resultsValue {files : List FileReport} (h : ∀ f ∈ files, f.Legible) :
    (resultsValue files).Plain := by
  have hfiles : ∀ v ∈ files.map fileValue, v.Plain :=
    List.forall_mem_map.mpr fun f hf => plain_fileValue (h f hf)
  refine .object (by show ["files", "summary"].Nodup; decide) ?_
  simp only [List.forall_mem_cons]
  exact ⟨.array hfiles, plain_summaryValue _, List.forall_mem_nil _⟩

theorem readResults?_resultsValue {files : List FileReport} (h : ∀ f ∈ files, f.Held) :
    readResults? (resultsValue files) = some (files.map FileReport.view) :=
  mapM_map_eq_some fun f hf => readFile?_fileValue (h f hf)

theorem read_format {files : List FileReport} (h : ∀ f ∈ files, f.Legible) (f : JsonFormat)
    {levels : Nat} (hdepth : (resultsValue files).depth ≤ levels) :
    Json.Value.read (f.format files).toList levels = .ok (resultsValue files) := by
  unfold format render
  split
  · rw [Json.Value.pretty, String.toList_ofList]
    exact Json.Value.read_prettyChars (plain_resultsValue h) hdepth
  · rw [Json.Value.compact, String.toList_ofList]
    exact Json.Value.read_compactChars (plain_resultsValue h) hdepth

/-! ## How deep results nest -/

theorem depth_optional {key : String} {o : Option Json.Value} {n : Nat} (h : ∀ v ∈ o, v.depth ≤ n) :
    ∀ m ∈ optional key o, m.2.depth ≤ n := by
  cases o with
  | none => exact List.forall_mem_nil _
  | some v => exact List.forall_mem_singleton.mpr (h v rfl)

variable {n : Nat}

theorem depth_diagnosticValue {d : Diagnostic} (h : ∀ v ∈ d.raw.parts, v.depth ≤ n) :
    (diagnosticValue d).depth ≤ n + 2 := by
  have hparts : (Json.Value.array d.raw.parts).depth ≤ n + 1 := by
    rw [Json.Value.depth, Nat.add_le_add_iff_right, Json.depthItems_le_iff]
    exact h
  rw [diagnosticValue, Json.Value.depth, Nat.add_le_add_iff_right, Json.depthMembers_le_iff]
  simp only [List.forall_mem_append, List.forall_mem_cons, Json.Value.depth_string]
  refine ⟨⟨⟨⟨Nat.zero_le _, Nat.zero_le _, Nat.zero_le _, hparts, List.forall_mem_nil _⟩,
    depth_optional ?_⟩, depth_optional ?_⟩, depth_optional ?_⟩ <;> intro v hv <;>
    obtain ⟨a, -, rfl⟩ := Option.map_eq_some_iff.mp hv <;> simp

theorem depth_exceptionValue (e : RuleException) : (exceptionValue e).depth ≤ 1 := by
  rw [exceptionValue, Json.Value.depth, Nat.add_le_add_iff_right, Json.depthMembers_le_iff]
  simp

theorem depth_summaryValue (s : Summary) : (summaryValue s).depth ≤ 1 := by
  rw [summaryValue, Json.Value.depth, Nat.add_le_add_iff_right, Json.depthMembers_le_iff]
  simp

theorem depth_fileObject {f : FileReport} {failure : Option String}
    {exceptions : List RuleException} {diagnostics : List Diagnostic}
    (h : ∀ d ∈ diagnostics, ∀ v ∈ d.raw.parts, v.depth ≤ n) :
    (Json.Value.object (fileMembers f failure exceptions diagnostics)).depth ≤ n + 4 := by
  have hexceptions : (Json.Value.array (exceptions.map exceptionValue)).depth ≤ n + 3 := by
    rw [Json.Value.depth, Nat.add_le_add_iff_right, Json.depthItems_le_iff, List.forall_mem_map]
    exact fun e _ => (depth_exceptionValue e).trans (Nat.le_add_left 1 (n + 1))
  have hdiagnostics : (Json.Value.array (diagnostics.map diagnosticValue)).depth ≤ n + 3 := by
    rw [Json.Value.depth, Nat.add_le_add_iff_right, Json.depthItems_le_iff, List.forall_mem_map]
    exact fun d hd => depth_diagnosticValue (h d hd)
  rw [Json.Value.depth, Nat.add_le_add_iff_right, Json.depthMembers_le_iff]
  simp only [fileMembers, List.forall_mem_append, List.forall_mem_cons, Json.Value.depth_string,
    Json.Value.depth_bool]
  refine ⟨⟨⟨Nat.zero_le _, Nat.zero_le _, List.forall_mem_nil _⟩, depth_optional fun v hv => ?_⟩,
    hexceptions, hdiagnostics, List.forall_mem_nil _⟩
  obtain ⟨message, -, rfl⟩ := Option.map_eq_some_iff.mp hv
  simp

theorem depth_fileValue {f : FileReport} (h : ∀ r, f.outcome = .ok r →
    ∀ d ∈ r.errors ++ r.warnings ++ r.logs, ∀ v ∈ d.raw.parts, v.depth ≤ n) :
    (fileValue f).depth ≤ n + 4 := by
  cases houtcome : f.outcome with
  | error failure =>
    rw [fileValue_of_error houtcome]
    exact depth_fileObject (List.forall_mem_nil _)
  | ok r =>
    rw [fileValue_of_ok houtcome]
    exact depth_fileObject (h r houtcome)

/-- Results nest by six levels more than the parts of their diagnostics. -/
theorem depth_resultsValue {files : List FileReport} (h : ∀ f ∈ files, ∀ r, f.outcome = .ok r →
    ∀ d ∈ r.errors ++ r.warnings ++ r.logs, ∀ v ∈ d.raw.parts, v.depth ≤ n) :
    (resultsValue files).depth ≤ n + 6 := by
  have hfiles : (Json.Value.array (files.map fileValue)).depth ≤ n + 5 := by
    rw [Json.Value.depth, Nat.add_le_add_iff_right, Json.depthItems_le_iff, List.forall_mem_map]
    exact fun f hf => depth_fileValue (h f hf)
  rw [resultsValue, Json.Value.depth, Nat.add_le_add_iff_right, Json.depthMembers_le_iff]
  simp only [List.forall_mem_cons]
  exact ⟨hfiles, (depth_summaryValue _).trans (Nat.le_add_left 1 (n + 4)), List.forall_mem_nil _⟩

/-! ## What results tell -/

/-- Each of the last three members of a diagnostic is there if it has a
value. -/
theorem isSome_get?_object (first : List (String × Json.Value)) (line column text : Option Json.Value)
    (hline : first.lookup "line" = none) (hcolumn : first.lookup "column" = none)
    (htext : first.lookup "source_line" = none) :
    let v := Json.Value.object (first ++ optional "line" line ++ optional "column" column ++
      optional "source_line" text)
    (v.get? "line").isSome = line.isSome ∧ (v.get? "column").isSome = column.isSome ∧
      (v.get? "source_line").isSome = text.isSome := by
  cases line <;> cases column <;> cases text <;>
    simp [Json.Value.get?, optional, List.lookup_append, hline, hcolumn, htext,
      Entries.lookup_cons, List.lookup_nil]

theorem isSome_get?_diagnosticValue {d : Diagnostic} (h : d.Held) :
    ∀ key ∈ ["line", "column", "source_line"],
      ((diagnosticValue d).get? key).isSome = d.node.isSome := by
  have hsource : (d.node.bind NodeRef.sourceLine?).isSome = d.node.isSome := by
    cases hnode : d.node with
    | none => rfl
    | some r =>
      obtain ⟨-, -, text, htext⟩ := h.located hnode
      rw [Option.bind_some, htext]
      rfl
  obtain ⟨hline, hcolumn, htext⟩ := isSome_get?_object [("rule", .string d.rule),
    ("severity", .string d.severity.text), ("message", .string d.message),
    ("parts", .array d.raw.parts)] (d.position?.map fun p => .ofNat p.line)
    (d.position?.map fun p => .ofNat p.column) ((d.node.bind NodeRef.sourceLine?).map .string)
    rfl rfl rfl
  rw [Option.isSome_map, Diagnostic.position?, Option.isSome_map] at hline hcolumn
  rw [Option.isSome_map, hsource] at htext
  simp only [List.forall_mem_cons]
  exact ⟨hline, hcolumn, htext, List.forall_mem_nil _⟩

/-- **Results tell everything, in either form.** Both texts are read as one
value, from which what there is to tell of every file is read back; where a
diagnostic has a node, its line, column and source line are there, and
nowhere else. So results of files that differ in something differ. -/
theorem format_recovers (files : List FileReport) (held : ∀ file ∈ files, file.Held) :
    (∀ (f : JsonFormat) (levels : Nat), (resultsValue files).depth ≤ levels →
      Json.Value.read (f.format files).toList levels = .ok (resultsValue files)) ∧
    readResults? (resultsValue files) = some (files.map FileReport.view) ∧
    (∀ file ∈ files, ∀ r, file.outcome = .ok r → ∀ d ∈ r.errors ++ r.warnings ++ r.logs,
      ∀ key ∈ ["line", "column", "source_line"],
        ((diagnosticValue d).get? key).isSome = d.node.isSome) ∧
    ∀ (f f' : JsonFormat) (files' : List FileReport), (∀ file ∈ files', file.Held) →
      f.format files = f'.format files' →
      files.map FileReport.view = files'.map FileReport.view := by
  have legible {files : List FileReport} (held : ∀ file ∈ files, file.Held) :
      ∀ file ∈ files, file.Legible := fun file hfile => (held file hfile).legible
  refine ⟨fun f levels => read_format (legible held) f, readResults?_resultsValue held,
    fun file hfile r hr d hd => isSome_get?_diagnosticValue ((held file hfile).diagnostics r hr d hd),
    fun f f' files' held' h => ?_⟩
  have hread := read_format (legible held) f (Nat.le_max_left _ (resultsValue files').depth)
  have hread' := read_format (legible held') f' (Nat.le_max_right (resultsValue files).depth _)
  rw [h, hread', Except.ok.injEq] at hread
  have hviews := readResults?_resultsValue held
  rw [← hread, readResults?_resultsValue held', Option.some.injEq] at hviews
  exact hviews.symm

/-- A message with a text that has to be escaped, and values of other kinds. -/
def remark : Message :=
  ⟨[.string "\"\x01\"", .array [], .object [("n", .bool true)]]⟩

/-- The results of a rule that remarks on the root, of a file and of one that
is no document. -/
def remarks (severity : Severity) : List FileReport :=
  let l : Linter :=
    ⟨.ofList [("custom", .one (.check (Script.toRule [.report severity remark (some 0)])))],
      .builtin, []⟩
  [⟨"icon.svg", (l.run (fun _ => none) "<svg/>").outcome⟩,
    ⟨"broken.svg", (l.run (fun _ => none) "<svg>").outcome⟩]

theorem held_remark (severity : Severity) :
    Diagnostic.Held ⟨"custom", severity, remark, Linter.bareDocument.ref? 0⟩ where
  parts := by
    have hmember : ∀ m ∈ [("n", Json.Value.bool true)], m.2.Plain :=
      List.forall_mem_singleton.mpr (.bool true)
    simp only [remark, List.forall_mem_cons]
    exact ⟨.string _, .array (List.forall_mem_nil _), .object (List.nodup_singleton _) hmember,
      List.forall_mem_nil _⟩
  node r hr := by
    cases hr
    exact ⟨"<svg/>".toList, rfl, by decide⟩

theorem held_remarks (severity : Severity) : ∀ file ∈ remarks severity, file.Held := by
  refine List.forall_mem_cons.mpr ⟨⟨fun r hr => ⟨_, _, _, hr⟩, fun r hr d hd => ?_⟩,
    List.forall_mem_singleton.mpr ⟨fun r hr => ⟨_, _, _, hr⟩, fun r hr => by cases hr⟩⟩
  have hd : d = ⟨"custom", severity, remark, Linter.bareDocument.ref? 0⟩ := by
    cases severity <;> cases hr <;> exact List.mem_singleton.mp hd
  exact hd ▸ held_remark severity

theorem format_remarks :
    (∀ file ∈ remarks .warning, file.Held) ∧ (∀ file ∈ remarks .log, file.Held) ∧
    Json.Value.read ((⟨true⟩ : JsonFormat).format (remarks .warning)).toList 127 =
      Json.Value.read ((⟨false⟩ : JsonFormat).format (remarks .warning)).toList 127 ∧
    (⟨true⟩ : JsonFormat).format (remarks .warning) ≠ (⟨false⟩ : JsonFormat).format (remarks .log) := by
  obtain ⟨read, -, -, differ⟩ := format_recovers (remarks .warning) (held_remarks .warning)
  have shallow : (resultsValue (remarks .warning)).depth ≤ 127 := by decide +kernel
  refine ⟨held_remarks .warning, held_remarks .log,
    (read ⟨true⟩ 127 shallow).trans (read ⟨false⟩ 127 shallow).symm, fun same => ?_⟩
  have views := differ ⟨true⟩ ⟨false⟩ (remarks .log) (held_remarks .log) same
  have counts : [1, 0] = [0, 0] :=
    congrArg (List.map fun file : FileView => file.warnings.length) views
  cases counts

end JsonFormat

end VectorLint
