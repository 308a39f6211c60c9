/-
Linting from the command line: a command reports on the files that it
collects, in order, one report each. A file is linted by its text and with
its path when the path may name a file and its bytes are a text; of any other
file the path itself is linted, as if it were the document (`run_collected`).

Whether a path may name a file is asked of the path alone, so a file with an
angle bracket or a line break in its name is collected and never opened
(`run_angledFile`).
-/
import VectorLint.Command.Run
import VectorLint.Proofs.Except
import VectorLint.Proofs.Run.Interleaving

namespace VectorLint

theorem looksLikePath_iff (input : String) :
    looksLikePath input = true ↔ input ≠ "" ∧ '<' ∉ input.toList ∧ '\n' ∉ input.toList := by
  simp [looksLikePath, and_assoc]

namespace FileSystem

variable {fs : FileSystem} {path : String}

theorem isFile_iff : fs.isFile path = true ↔ ∃ bytes, fs.find path = .ok (.file bytes) := by
  unfold isFile
  split
  · rename_i bytes h
    simp [h]
  · rename_i h
    simpa using h

theorem ne_empty_of_find {tree : FileTree} (h : fs.find path = .ok tree) : path ≠ "" := by
  rintro rfl
  simp [find, trail, bind, Except.bind] at h

theorem readText_of_find {bytes : ByteArray} (h : fs.find path = .ok (.file bytes)) :
    (fs.readText path).toOption = Text.ofBytes? bytes := by
  simp only [readText, h, bind, Except.bind]
  cases Text.ofBytes? bytes <;> rfl

end FileSystem

/-- What linting a text comes to, under a name: the report of the rules, or
why the text is no document. -/
def outcomeOf (rules : RuleSettings) (context : Context) (name : String) (text : List Char) :
    Except ParseFailure Report :=
  match Document.parse text with
  | .error e => .error (.ofError name e)
  | .ok d => .ok ((⟨rules, .builtin, []⟩ : Linter).runDocument Task.roundRobin d context).1

theorem outcome_run_builtin (rules : RuleSettings) (read : ReadText) (input : String) :
    ((⟨rules, .builtin, []⟩ : Linter).run read input).outcome =
      outcomeOf rules (resolveInput read input).2 input (resolveInput read input).1 := by
  unfold outcomeOf
  cases h : Document.parse (resolveInput read input).1 <;> simp only [Linter.run, h]

namespace Command

section Files

variable {fs : FileSystem} {file : String} {bytes : ByteArray}

theorem outcome_lintFile_text {text : List Char} (rules : RuleSettings)
    (h : fs.find file = .ok (.file bytes)) (angle : '<' ∉ file.toList) (line : '\n' ∉ file.toList)
    (encodes : Text.ofBytes? bytes = some text) :
    (lintFile fs rules file).outcome = outcomeOf rules ⟨some file⟩ file text := by
  have hpath : looksLikePath file = true :=
    (looksLikePath_iff file).mpr ⟨FileSystem.ne_empty_of_find h, angle, line⟩
  rw [lintFile, outcome_run_builtin, resolveInput, if_pos hpath, FileSystem.readText_of_find h,
    encodes]

theorem outcome_lintFile_path (rules : RuleSettings) (h : fs.find file = .ok (.file bytes))
    (closed : '<' ∈ file.toList ∨ '\n' ∈ file.toList ∨ Text.ofBytes? bytes = none) :
    (lintFile fs rules file).outcome = outcomeOf rules ⟨none⟩ file file.toList := by
  have hinput : resolveInput (fun path => (fs.readText path).toOption) file =
      (file.toList, ⟨none⟩) := by
    unfold resolveInput
    split
    · rename_i hpath
      obtain ⟨-, hangle, hline⟩ := (looksLikePath_iff file).mp hpath
      have hnone : Text.ofBytes? bytes = none :=
        (closed.resolve_left hangle).resolve_left hline
      simp only [FileSystem.readText_of_find h, hnone]
    · rfl
  rw [lintFile, outcome_run_builtin, hinput]

theorem isFile_of_filesNamed {argument : String} {files : List String}
    (h : filesNamed fs argument = .ok files) (hmem : file ∈ files) : fs.isFile file = true := by
  unfold filesNamed at h
  split at h
  · rename_i hfile
    obtain rfl := Except.ok.inj h
    rwa [List.mem_singleton.mp hmem]
  · split at h
    · obtain rfl := Except.ok.inj h
      exact (List.mem_filter.mp hmem).2
    · cases h

theorem isFile_of_collectFiles {arguments ignore : List String} {files : List String}
    (h : collectFiles fs arguments ignore = .ok files) (hmem : file ∈ files) :
    fs.isFile file = true := by
  obtain ⟨named, hnamed, hfiles⟩ := bind_eq_ok.mp h
  obtain rfl := Except.ok.inj hfiles
  obtain ⟨those, hthose, hfile⟩ := List.mem_flatten.mp (List.mem_filter.mp hmem).1
  obtain ⟨argument, -, hargument⟩ := exists_of_mem_mapM hnamed hthose
  exact isFile_of_filesNamed hargument hfile

end Files

theorem lintFiles_of_collected {fs : FileSystem} {i : Invocation} {c : Config} {files : List String}
    (loaded : loadConfig fs i = .ok c) (collected : collectFiles fs i.files c.ignore = .ok files)
    (found : files ≠ []) : lintFiles fs i = .ok (files.map (lintFile fs c.rules)) := by
  have hgiven : i.files.isEmpty = false := by
    rw [List.isEmpty_eq_false_iff]
    intro hnone
    rw [hnone] at collected
    exact found (Except.ok.inj collected).symm
  have hfound : files.isEmpty = false := List.isEmpty_eq_false_iff.mpr found
  simp [lintFiles, loaded, collected, hgiven, hfound, Except.mapError, bind, Except.bind, pure,
    Except.pure]

/-- **What a command lints.** A command that loads its configuration and
collects some files prints a report on each, in the order in which they are
collected. -/
theorem run_collected (fs : FileSystem) (terminal : Bool) (args : List String) (i : Invocation)
    (c : Config) (files : List String) (read : Invocation.parse args = .ok i)
    (lints : i.listRules = false) (loaded : loadConfig fs i = .ok c)
    (collected : collectFiles fs i.files c.ignore = .ok files) (found : files ≠ []) :
    ∃ reports : List FileReport,
      run fs terminal args = ⟨exitCode reports, render i terminal reports, ""⟩ ∧
      reports.map FileReport.input = files ∧
      ∀ file outcome, ⟨file, outcome⟩ ∈ reports →
        ∃ bytes, fs.find file = .ok (.file bytes) ∧
          (∀ text, '<' ∉ file.toList → '\n' ∉ file.toList → Text.ofBytes? bytes = some text →
            outcome = outcomeOf c.rules ⟨some file⟩ file text) ∧
          ('<' ∈ file.toList ∨ '\n' ∈ file.toList ∨ Text.ofBytes? bytes = none →
            outcome = outcomeOf c.rules ⟨none⟩ file file.toList) := by
  refine ⟨files.map (lintFile fs c.rules), ?_, ?_, ?_⟩
  · simp only [run, read, Invocation.run, lints, lintFiles_of_collected loaded collected found]
    rfl
  · rw [List.map_map]
    exact List.map_id _
  · intro file outcome hmem
    obtain ⟨selected, hselected, heq⟩ := List.mem_map.mp hmem
    obtain ⟨rfl, rfl⟩ := FileReport.mk.inj heq
    obtain ⟨bytes, hbytes⟩ :=
      FileSystem.isFile_iff.mp (isFile_of_collectFiles collected hselected)
    exact ⟨bytes, hbytes, fun text => outcome_lintFile_text c.rules hbytes,
      outcome_lintFile_path c.rules hbytes⟩

/-- The same document twice, once under a name with an angle bracket. -/
def twinFiles : FileSystem where
  root := .directory [("a<b.svg", .file "<svg/>".toUTF8), ("plain.svg", .file "<svg/>".toUTF8)]
  workingDirectory := "/"
  home := "/home"

/-- The invocation of a command that has nothing but files. -/
def bareInvocation (files : List String) : Invocation where
  files := files
  config := none
  output := .text
  verbose := false
  noColor := false
  listRules := false

theorem run_twinFiles :
    Invocation.parse ["plain.svg", "a<b.svg"] = .ok (bareInvocation ["plain.svg", "a<b.svg"]) ∧
    loadConfig twinFiles (bareInvocation ["plain.svg", "a<b.svg"]) = .ok .empty ∧
    collectFiles twinFiles ["plain.svg", "a<b.svg"] [] = .ok ["plain.svg", "a<b.svg"] ∧
    ∃ reports : List FileReport,
      run twinFiles false ["plain.svg", "a<b.svg"] =
        ⟨exitCode reports, render (bareInvocation ["plain.svg", "a<b.svg"]) false reports, ""⟩ ∧
      reports.map FileReport.input = ["plain.svg", "a<b.svg"] ∧
      (∀ outcome, ⟨"plain.svg", outcome⟩ ∈ reports →
        outcome = outcomeOf .empty ⟨some "plain.svg"⟩ "plain.svg" "<svg/>".toList) ∧
      ∀ outcome, ⟨"a<b.svg", outcome⟩ ∈ reports →
        outcome = outcomeOf .empty ⟨none⟩ "a<b.svg" "a<b.svg".toList := by
  have read : Invocation.parse ["plain.svg", "a<b.svg"] =
      .ok (bareInvocation ["plain.svg", "a<b.svg"]) := by decide +kernel
  have loaded : loadConfig twinFiles (bareInvocation ["plain.svg", "a<b.svg"]) = .ok .empty := by rfl
  have collected : collectFiles twinFiles ["plain.svg", "a<b.svg"] [] =
      .ok ["plain.svg", "a<b.svg"] := by rfl
  obtain ⟨reports, hrun, hinputs, houtcomes⟩ := run_collected twinFiles false
    ["plain.svg", "a<b.svg"] _ _ _ read rfl loaded collected (by decide)
  refine ⟨read, loaded, collected, reports, hrun, hinputs, fun outcome h => ?_, fun outcome h => ?_⟩
  · obtain ⟨bytes, hbytes, htext, -⟩ := houtcomes _ _ h
    obtain rfl : "<svg/>".toUTF8 = bytes := FileTree.file.inj (Except.ok.inj hbytes)
    exact htext _ (by decide) (by decide) (by rfl)
  · obtain ⟨_, _, _, hpath⟩ := houtcomes _ _ h
    exact hpath (.inl (by decide))

/-- The name of the file is linted for the document that is in it. -/
theorem run_angledFile :
    collectFiles twinFiles ["a<b.svg"] [] = .ok ["a<b.svg"] ∧
    twinFiles.readText "a<b.svg" = .ok "<svg/>".toList ∧
    Document.parse "<svg/>".toList = .ok Linter.bareDocument ∧
    (∃ failure, lintFiles twinFiles (bareInvocation ["a<b.svg"]) = .ok [⟨"a<b.svg", .error failure⟩]) ∧
    run twinFiles false ["a<b.svg"] =
      ⟨1, "a<b.svg fail\n  error: Error in a<b.svg: SVG parsing error: text content outside of the " ++
        "root element (line 1)\n\n1 file processed: 1 error\n", ""⟩ ∧
    run twinFiles false ["plain.svg"] = ⟨0, "plain.svg pass\n\n1 file processed\n", ""⟩ :=
  ⟨by rfl, by rfl, by rfl, ⟨_, by rfl⟩, by decide +kernel, by decide +kernel⟩

end Command

end VectorLint
