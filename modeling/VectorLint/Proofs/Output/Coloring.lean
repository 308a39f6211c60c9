/-
Color in results. A terminal shows of styled results what they are without
styles (`visible_format`), as long as nothing that is printed brings an escape
character of its own.

Every text is put together from the same parts whether it is styled or not,
and each part shows itself. The excerpt of a diagnostic is cut into its lines
first and styled line by line, so it has to be known that no line has an
escape character; it has none if the source has none (`escape_not_mem_trace`).
-/
import VectorLint.Proofs.Output.Statistics
import VectorLint.Proofs.Report.Trace
import VectorLint.Proofs.Run.Interleaving

namespace VectorLint

/-- Nothing that is printed of a diagnostic has an escape character. -/
structure Diagnostic.Unescaped (d : Diagnostic) : Prop where
  message : '\x1b' ∉ d.message.toList
  source : ∀ r ∈ d.node, '\x1b' ∉ r.document.source

def RuleException.Unescaped (e : RuleException) : Prop := '\x1b' ∉ e.message.toList

structure Report.Unescaped (r : Report) : Prop where
  exceptions : ∀ e ∈ r.exceptions, e.Unescaped
  diagnostics : ∀ d ∈ r.errors ++ r.warnings ++ r.logs, d.Unescaped

structure FileReport.Unescaped (file : FileReport) : Prop where
  input : '\x1b' ∉ file.input.toList
  failure : ∀ failure, file.outcome = .error failure → '\x1b' ∉ failure.message.toList
  report : ∀ report, file.outcome = .ok report → report.Unescaped

/-! ## Excerpts -/

theorem escape_not_mem_repr (n : Nat) : '\x1b' ∉ n.repr.toList := fun h =>
  absurd (TextFormat.isDigit_of_mem_repr h) (by decide)

theorem NodeRef.escape_not_mem_sourceLine {r : NodeRef} (h : '\x1b' ∉ r.document.source)
    {line : String} (hline : r.sourceLine? = some line) : '\x1b' ∉ line.toList := by
  rw [sourceLine?, Document.sourceLine?] at hline
  split at hline
  · cases hline
  · obtain ⟨shown, hshown, rfl⟩ := Option.map_eq_some_iff.mp hline
    rw [String.toList_ofList]
    exact fun hmem => h (Text.subset_of_line? hshown hmem)

namespace Diagnostic

theorem escape_not_mem_trace {d : Diagnostic} (h : d.Unescaped) {trace : String}
    (htrace : d.trace? = some trace) : '\x1b' ∉ trace.toList := by
  simp only [trace?, Option.bind_eq_bind, Option.bind_eq_some_iff, Option.pure_def,
    Option.some.injEq] at htrace
  obtain ⟨r, hr, line, hline, rfl⟩ := htrace
  have hnumber := not_mem_alignRight (by decide) (escape_not_mem_repr r.node.position.line) gutter
  have hblanks (width : Nat) : '\x1b' ∉ (alignRight width "").toList :=
    not_mem_alignRight (by decide) List.not_mem_nil width
  have hsource := NodeRef.escape_not_mem_sourceLine (h.source r hr) hline
  simp [hnumber, hblanks, hsource]

end Diagnostic

/-! ## Texts, styled and not -/

namespace TextFormat

open Style (Shows shows_self)

/-- The format without styles. -/
def uncolored (f : TextFormat) : TextFormat := { f with colored := false }

theorem shows_severityText (f : TextFormat) (s : Severity) :
    Shows (f.severityText s) (f.uncolored.severityText s) := by
  refine shows_paint f _ ?_
  cases s <;> decide

theorem shows_sourceText (f : TextFormat) {d : Diagnostic} (h : d.Unescaped) :
    Shows (f.sourceText d) (f.uncolored.sourceText d) := by
  unfold sourceText
  cases htrace : d.trace? with
  | none => exact shows_self List.not_mem_nil
  | some trace =>
    refine .join fun line hline => ?_
    have hplain : '\x1b' ∉ (String.ofList line).toList := by
      rw [String.toList_ofList]
      exact fun hmem => Diagnostic.escape_not_mem_trace h htrace (Text.subset_of_mem_lines hline hmem)
    exact .append (.append (shows_self (by decide)) (shows_paint f _ hplain)) (shows_self (by decide))

theorem escape_not_mem_placeText (d : Diagnostic) : '\x1b' ∉ (placeText d).toList := by
  unfold placeText
  cases d.position? with
  | none => exact List.not_mem_nil
  | some p => simpa using And.intro (escape_not_mem_repr p.line) (escape_not_mem_repr p.column)

/-- A message begins with the name of the rule. -/
theorem shows_rule (f : TextFormat) (style : Style) {rule text : String}
    (h : '\x1b' ∉ (rule ++ ": " ++ text).toList) : Shows (f.paint style rule) rule := by
  simp only [String.toList_append, List.mem_append, not_or] at h
  exact shows_paint f style h.1.1

theorem shows_diagnosticText (f : TextFormat) {d : Diagnostic} (h : d.Unescaped) :
    Shows (f.diagnosticText d) (f.uncolored.diagnosticText d) := by
  have hfront : '\x1b' ∉ ("  " ++ placeText d).toList := by
    simp [escape_not_mem_placeText]
  refine .append (.append (.append (.append (.append (.append (.append ?_ ?_) ?_) ?_) ?_) ?_) ?_) ?_
  · exact shows_self hfront
  · exact shows_severityText f d.severity
  · exact shows_self (by decide)
  · exact shows_rule f (.plain .cyan) h.message
  · exact shows_self (by decide)
  · exact shows_self h.message
  · exact shows_self (by decide)
  · exact .ite f.showSource (shows_sourceText f h)

theorem shows_exceptionText (f : TextFormat) {e : RuleException} (h : e.Unescaped) :
    Shows (f.exceptionText e) (f.uncolored.exceptionText e) := by
  refine .append (.append (.append (.append (.append (.append ?_ ?_) ?_) ?_) ?_) ?_) ?_
  · exact shows_self (by decide)
  · exact shows_paint f (.bolded .magenta) (by decide)
  · exact shows_self (by decide)
  · exact shows_rule f (.plain .cyan) h
  · exact shows_self (by decide)
  · exact shows_self h
  · exact shows_self (by decide)

theorem shows_reportText (f : TextFormat) {report : Report} (h : report.Unescaped) :
    Shows
      (String.join (report.exceptions.map f.exceptionText) ++
        String.join ((report.errors ++ report.warnings).map f.diagnosticText) ++
        (if f.showLogs then String.join (report.logs.map f.diagnosticText) else ""))
      (String.join (report.exceptions.map f.uncolored.exceptionText) ++
        String.join ((report.errors ++ report.warnings).map f.uncolored.diagnosticText) ++
        (if f.showLogs then String.join (report.logs.map f.uncolored.diagnosticText) else "")) := by
  have hdiagnostics := List.forall_mem_append.mp h.diagnostics
  refine .append (.append ?_ ?_) ?_
  · exact .join fun e he => shows_exceptionText f (h.exceptions e he)
  · exact .join fun d hd => shows_diagnosticText f (hdiagnostics.1 d hd)
  · exact .ite f.showLogs (.join fun d hd => shows_diagnosticText f (hdiagnostics.2 d hd))

theorem shows_fileText (f : TextFormat) {file : FileReport} (h : file.Unescaped) :
    Shows (f.fileText file) (f.uncolored.fileText file) := by
  refine .append (.append (.append (.append ?_ ?_) ?_) ?_) ?_
  · exact shows_paint f .underlined h.input
  · exact shows_self (by decide)
  · split
    · exact shows_paint f (.plain .green) (by decide)
    · exact shows_paint f (.plain .red) (by decide)
  · exact shows_self (by decide)
  · cases houtcome : file.outcome with
    | ok report => exact shows_reportText f (h.report report houtcome)
    | error failure =>
      refine .append (.append (.append (.append ?_ ?_) ?_) ?_) ?_
      · exact shows_self (by decide)
      · exact shows_severityText f .error
      · exact shows_self (by decide)
      · exact shows_self (h.failure failure houtcome)
      · exact shows_self (by decide)

theorem shows_statsText (f : TextFormat) (s : Summary) :
    Shows (f.statsText s) (f.uncolored.statsText s) := by
  rw [statsText_eq, statsText_eq]
  exact .append (.append (shows_self (by decide)) (shows_statsLine f s)) (shows_self (by decide))

theorem shows_format (f : TextFormat) {files : List FileReport} (h : ∀ file ∈ files, file.Unescaped) :
    Shows (f.format files) (f.uncolored.format files) := by
  refine .append ?_ ?_
  · exact .join fun file hfile => shows_fileText f (h file hfile)
  · exact .ite f.showStats (shows_statsText f _)

/-- **Color is no part of what is shown**, neither of results nor of a
diagnostic alone. -/
theorem visible_format (f : TextFormat) :
    (∀ files : List FileReport, (∀ file ∈ files, file.Unescaped) →
      Style.visible (f.format files).toList = (f.uncolored.format files).toList) ∧
    ∀ d : Diagnostic, d.Unescaped →
      Style.visible (f.diagnosticText d).toList = (f.uncolored.diagnosticText d).toList :=
  ⟨fun _ h => (shows_format f h).visible_eq, fun _ h => (shows_diagnosticText f h).visible_eq⟩

/-- An error at the element of a document. -/
def markedError : Diagnostic :=
  ⟨"elm", .error, .ofText "Found", some ⟨Linter.bareDocument, Linter.bareDocument.root⟩⟩

/-- A report with something of each kind. -/
def markedReport : Report where
  exceptions := [⟨"custom", "lost"⟩]
  errors := [markedError]
  warnings := [⟨"custom", .warning, .ofText "careful", none⟩]
  logs := [⟨"custom", .log, .ofText "seen", none⟩]

/-- A file with that report, and one that is no document. -/
def markedFiles : List FileReport :=
  [⟨"a.svg", .ok markedReport⟩, ⟨"b.svg", .error ⟨"b.svg", "Error in b.svg"⟩⟩]

/-- Everything is shown, in color. -/
def lavish : TextFormat := ⟨true, true, true, true⟩

theorem visible_markedFiles :
    (∀ file ∈ markedFiles, file.Unescaped) ∧ markedError.Unescaped ∧
    '\x1b' ∈ (lavish.diagnosticText markedError).toList ∧
    Style.visible (lavish.format markedFiles).toList =
      ("a.svg fail\n  exception[custom]: custom: lost\n  1:1: error[elm]: elm: Found\n" ++
        "     1 | <svg/>\n       | ^\n  warning[custom]: custom: careful\n" ++
        "  log[custom]: custom: seen\nb.svg fail\n  error: Error in b.svg\n" ++
        "\n2 files processed: 1 exception, 2 errors, 1 warning\n").toList ∧
    Style.visible (lavish.diagnosticText markedError).toList =
      "  1:1: error[elm]: elm: Found\n     1 | <svg/>\n       | ^\n".toList := by
  have error : markedError.Unescaped := ⟨by decide +kernel, by decide +kernel⟩
  have report : markedReport.Unescaped := by
    have exceptions : ∀ e ∈ markedReport.exceptions, '\x1b' ∉ e.message.toList := by decide +kernel
    refine ⟨exceptions, List.forall_mem_cons.mpr ⟨error, List.forall_mem_cons.mpr ⟨?_, ?_⟩⟩⟩
    · exact ⟨by decide +kernel, by decide +kernel⟩
    · exact List.forall_mem_singleton.mpr ⟨by decide +kernel, by decide +kernel⟩
  have files : ∀ file ∈ markedFiles, file.Unescaped := by
    refine List.forall_mem_cons.mpr ⟨?_, List.forall_mem_singleton.mpr ?_⟩
    · refine ⟨by decide, nofun, ?_⟩
      rintro _ ⟨⟩
      exact report
    · refine ⟨by decide, ?_, nofun⟩
      rintro _ ⟨⟩
      decide
  refine ⟨files, error, by decide +kernel, ?_, ?_⟩
  · exact ((visible_format lavish).1 markedFiles files).trans (congrArg String.toList (by decide +kernel))
  · exact ((visible_format lavish).2 markedError error).trans (congrArg String.toList (by decide +kernel))

end TextFormat

end VectorLint
