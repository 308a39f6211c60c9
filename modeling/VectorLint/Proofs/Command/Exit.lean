/-
How a command exits. The exit code, the totals and the verdicts on the reports
all say whether every file passes (`Agrees`), and what is printed states the
totals; so a command that lints some files tells by its exit code what its
output says (`run_agrees`).
-/
import VectorLint.Proofs.Command.Linting
import VectorLint.Proofs.Config.Written
import VectorLint.Proofs.Output.Legible
import VectorLint.Proofs.Output.Statistics
import VectorLint.Proofs.Output.Totals
import VectorLint.Proofs.Run.Verdict

namespace VectorLint

/-- No parse failure, and no fault by the verdict on the report. -/
def FileReport.Acquitted (f : FileReport) : Prop :=
  ∃ r, f.outcome = .ok r ∧ r.verdict = .ok ()

theorem FileReport.acquitted_iff {f : FileReport} : f.Acquitted ↔ f.passed = true := by
  unfold Acquitted passed
  cases f.outcome with
  | error failure => simp
  | ok r => simp [Report.verdict_eq_ok_iff, Report.passed]

namespace Command

theorem exitCode_eq_zero_iff {reports : List FileReport} :
    exitCode reports = 0 ↔ ∀ f ∈ reports, f.passed = true := by
  rw [← List.all_eq_true]
  simp [exitCode]

theorem exitCode_eq (reports : List FileReport) : exitCode reports = 0 ∨ exitCode reports = 1 := by
  unfold exitCode
  split
  · exact .inl rfl
  · exact .inr rfl

/-- Whatever tells of the success of reports agrees on it. -/
structure Agrees (reports : List FileReport) : Prop where
  exit : exitCode reports = 0 ∨ exitCode reports = 1
  passes : exitCode reports = 0 ↔ ∀ f ∈ reports, f.passed = true
  failed : exitCode reports = 0 ↔ (Summary.of reports).failed = 0
  faults : exitCode reports = 0 ↔
    (Summary.of reports).exceptions + (Summary.of reports).errors = 0
  verdicts : exitCode reports = 0 ↔ ∀ f ∈ reports, f.Acquitted
  failed_le_faults : (Summary.of reports).failed ≤
    (Summary.of reports).exceptions + (Summary.of reports).errors
  failed_le_files : (Summary.of reports).failed ≤ (Summary.of reports).files
  append : ∀ more, Summary.of (reports ++ more) = (Summary.of reports).add (.of more)
  text : ∀ f : TextFormat, f.showStats = true → TextFormat.States (f.format reports) (.of reports)
  /-- Doubles apart, which only rules given directly report. -/
  json : (∀ f ∈ reports, f.Legible) → (Summary.of reports).Fits → ∀ (f : JsonFormat) (levels : Nat),
    (JsonFormat.resultsValue reports).depth ≤ levels →
    JsonFormat.States levels (f.format reports) (.of reports)

theorem agrees (reports : List FileReport) : Agrees reports where
  exit := exitCode_eq reports
  passes := exitCode_eq_zero_iff
  failed := exitCode_eq_zero_iff.trans Summary.failed_eq_zero_iff.symm
  faults := exitCode_eq_zero_iff.trans Summary.faults_eq_zero_iff.symm
  verdicts := by
    simp only [exitCode_eq_zero_iff, FileReport.acquitted_iff]
  failed_le_faults := Summary.failed_le_faults reports
  failed_le_files := Summary.failed_le_files reports
  append := Summary.of_append reports
  text f shows := TextFormat.states_format f shows reports
  json legible fits f _ hdepth := JsonFormat.states_format legible fits f hdepth

theorem run_of_lintFiles {fs : FileSystem} {args : List String} {i : Invocation}
    {reports : List FileReport} (terminal : Bool) (read : Invocation.parse args = .ok i)
    (lints : i.listRules = false) (h : lintFiles fs i = .ok reports) :
    run fs terminal args = ⟨exitCode reports, render i terminal reports, ""⟩ := by
  simp only [run, read, Invocation.run, lints, h]
  rfl

/-- Whatever the configuration, it takes data from files; so reports are flat. -/
theorem flat_lintFile {fs : FileSystem} {i : Invocation} {c : Config} {file : String} {r : Report}
    (loaded : loadConfig fs i = .ok c) (h : (lintFile fs c.rules file).outcome = .ok r) : r.Flat := by
  refine Linter.flat_of_run Pattern.engine rfl ?_ h
  unfold loadConfig at loaded
  split at loaded
  · exact Config.data_of_load loaded
  · exact Config.data_of_loadDefault loaded

/-- **The exit code tells what the output says.** A command that loads its
configuration and collects some files exits by the reports on them and prints
their totals; and on any reports the exit code, the totals and the verdicts
agree. -/
theorem run_agrees (fs : FileSystem) (terminal : Bool) (args : List String) (i : Invocation)
    (c : Config) (files : List String) (read : Invocation.parse args = .ok i)
    (lints : i.listRules = false) (loaded : loadConfig fs i = .ok c)
    (collected : collectFiles fs i.files c.ignore = .ok files) (found : files ≠ []) :
    (∃ reports : List FileReport,
      lintFiles fs i = .ok reports ∧ reports.map FileReport.input = files ∧
      run fs terminal args = ⟨exitCode reports, render i terminal reports, ""⟩ ∧
      (i.output = .text → TextFormat.States (run fs terminal args).output (.of reports)) ∧
      (i.output = .json → (Summary.of reports).Fits →
        JsonFormat.States Json.maxLevels (run fs terminal args).output (.of reports))) ∧
    ∀ reports, Agrees reports := by
  have hlinted := lintFiles_of_collected loaded collected found
  have hrun := run_of_lintFiles terminal read lints hlinted
  have hinputs : (files.map (lintFile fs c.rules)).map FileReport.input = files := by
    rw [List.map_map]
    exact List.map_id _
  refine ⟨⟨_, hlinted, hinputs, hrun, fun htext => ?_, fun hjson fits => ?_⟩, agrees⟩
  · rw [hrun]
    simp only [render, htext]
    exact TextFormat.states_format _ rfl _
  · have hflat : ∀ f ∈ files.map (lintFile fs c.rules), ∀ r, f.outcome = .ok r → r.Flat :=
      List.forall_mem_map.mpr fun file _ r => flat_lintFile loaded
    rw [hrun]
    simp only [render, hjson]
    exact JsonFormat.states_format (fun f hf => .of_flat (hflat f hf)) fits _
      ((JsonFormat.depth_of_flat hflat).trans (by decide))

/-- Of two files one is no document; the totals are printed as a text on a
terminal that shows colors, and as JSON. -/
theorem run_twinTotals :
    (∃ reports : List FileReport,
      lintFiles twinFiles (bareInvocation ["plain.svg", "a<b.svg"]) = .ok reports ∧
      Summary.of reports = ⟨2, 1, 0, 1, 0⟩ ∧
      (run twinFiles true ["plain.svg", "a<b.svg"]).exitCode = 1 ∧
      TextFormat.States (run twinFiles true ["plain.svg", "a<b.svg"]).output (.of reports)) ∧
    JsonFormat.States Json.maxLevels
      (run twinFiles false ["--format", "json", "plain.svg", "a<b.svg"]).output ⟨2, 1, 0, 1, 0⟩ := by
  have read : Invocation.parse ["plain.svg", "a<b.svg"] =
      .ok (bareInvocation ["plain.svg", "a<b.svg"]) := by decide +kernel
  have readJson : Invocation.parse ["--format", "json", "plain.svg", "a<b.svg"] =
      .ok { bareInvocation ["plain.svg", "a<b.svg"] with output := .json } := by decide +kernel
  have loaded : loadConfig twinFiles (bareInvocation ["plain.svg", "a<b.svg"]) = .ok .empty := by rfl
  have collected : collectFiles twinFiles ["plain.svg", "a<b.svg"] [] =
      .ok ["plain.svg", "a<b.svg"] := by rfl
  obtain ⟨⟨reports, linted, -, hrun, printed, -⟩, agrees⟩ := run_agrees twinFiles true
    ["plain.svg", "a<b.svg"] _ _ _ read rfl loaded collected (by decide)
  obtain ⟨⟨same, lintedJson, -, -, -, printedJson⟩, -⟩ := run_agrees twinFiles false
    ["--format", "json", "plain.svg", "a<b.svg"] _ _ _ readJson rfl loaded collected (by decide)
  obtain rfl : reports = same := Except.ok.inj (linted.symm.trans lintedJson)
  have totals : (lintFiles twinFiles (bareInvocation ["plain.svg", "a<b.svg"])).toOption.map
      Summary.of = some ⟨2, 1, 0, 1, 0⟩ := by
    decide +kernel
  rw [linted] at totals
  have totals : Summary.of reports = ⟨2, 1, 0, 1, 0⟩ := Option.some.inj totals
  have fits : (Summary.of reports).Fits := by
    rw [totals]
    exact ⟨by decide, by decide, by decide, by decide⟩
  refine ⟨⟨reports, linted, totals, ?_, printed rfl⟩, totals ▸ printedJson rfl fits⟩
  rw [hrun]
  refine (agrees reports).exit.resolve_left fun hzero => ?_
  have hfailed := (agrees reports).failed.mp hzero
  rw [totals] at hfailed
  cases hfailed

end Command

end VectorLint
