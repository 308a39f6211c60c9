/-
The totals of files. They are sums over the files (`of_append`), and as no
file fails without a fault and each has one that does (`faults_ofFile`), both
counts are nought for the same files. JSON results state the totals: their
text is read as a value whose summary they are (`JsonFormat.states_format`).
-/
import VectorLint.Proofs.Output.Results

namespace VectorLint

/-! ## Sums over files -/

namespace Summary

variable {f : FileReport} {files : List FileReport}

theorem zero_add (s : Summary) : zero.add s = s := by
  simp [zero, add]

theorem add_assoc (a b c : Summary) : (a.add b).add c = a.add (b.add c) := by
  simp only [add, Nat.add_assoc]

/-- The totals of some files and of others add up. -/
theorem of_append (files more : List FileReport) : of (files ++ more) = (of files).add (of more) := by
  induction files with
  | nil => exact (zero_add (of more)).symm
  | cons f files ih =>
    show (ofFile f).add (of (files ++ more)) = ((ofFile f).add (of files)).add (of more)
    rw [ih, add_assoc]

theorem of_cons (f : FileReport) (files : List FileReport) :
    of (f :: files) = (ofFile f).add (of files) := rfl

theorem files_of (files : List FileReport) : (of files).files = files.length := by
  induction files with
  | nil => rfl
  | cons f files ih =>
    have hone : (ofFile f).files = 1 := by
      unfold ofFile
      cases f.outcome <;> rfl
    rw [of_cons, add, hone, ih, List.length_cons, Nat.add_comm]

theorem failed_ofFile (f : FileReport) : (ofFile f).failed = if f.passed then 0 else 1 := by
  unfold ofFile
  cases f.outcome <;> rfl

/-- A file has a fault unless it passes. -/
theorem faults_ofFile : (ofFile f).exceptions + (ofFile f).errors = 0 ↔ f.passed = true := by
  unfold ofFile FileReport.passed Report.passed
  cases f.outcome with
  | error failure => simp
  | ok r => simp

theorem failed_eq_zero_iff : (of files).failed = 0 ↔ ∀ f ∈ files, f.passed = true := by
  induction files with
  | nil => simp [of, zero]
  | cons f files ih =>
    rw [of_cons, List.forall_mem_cons, ← ih, add, Nat.add_eq_zero_iff, failed_ofFile]
    cases f.passed <;> simp

theorem faults_eq_zero_iff :
    (of files).exceptions + (of files).errors = 0 ↔ ∀ f ∈ files, f.passed = true := by
  induction files with
  | nil => simp [of, zero]
  | cons f files ih =>
    rw [of_cons, List.forall_mem_cons, ← ih, ← faults_ofFile]
    simp only [add]
    omega

theorem failed_le_faults (files : List FileReport) :
    (of files).failed ≤ (of files).exceptions + (of files).errors := by
  induction files with
  | nil => exact Nat.le_refl 0
  | cons f files ih =>
    have hfile : (ofFile f).failed ≤ (ofFile f).exceptions + (ofFile f).errors := by
      have hfaults := @faults_ofFile f
      rw [failed_ofFile]
      cases hpassed : f.passed with
      | true => simp
      | false =>
        rw [hpassed] at hfaults
        simp only [Bool.false_eq_true, iff_false, if_false] at hfaults ⊢
        omega
    rw [of_cons]
    simp only [add]
    omega

theorem failed_le_files (files : List FileReport) : (of files).failed ≤ (of files).files := by
  induction files with
  | nil => exact Nat.le_refl 0
  | cons f files ih =>
    have hfile : (ofFile f).failed ≤ 1 := by
      rw [failed_ofFile]
      split <;> decide
    rw [files_of, List.length_cons, of_cons]
    rw [files_of] at ih
    simp only [add]
    omega

end Summary

/-! ## The summary of JSON results -/

/-- Totals of 64 bits, as those of anything that a machine holds are. -/
structure Summary.Fits (s : Summary) : Prop where
  files : s.files < 0x10000000000000000
  exceptions : s.exceptions < 0x10000000000000000
  errors : s.errors < 0x10000000000000000
  warnings : s.warnings < 0x10000000000000000

namespace JsonFormat

def readSummary? (v : Json.Value) : Option Summary := do
  let summary ← v.get? "summary"
  let count (key : String) : Option Nat := (summary.get? key).bind Json.Value.asNat?
  return ⟨← count "files_processed", ← count "files_failed", ← count "exception_count",
    ← count "error_count", ← count "warning_count"⟩

/-- The counts are found by their keys, whatever they are. -/
theorem readSummary?_object (v files failed exceptions errors warnings : Json.Value) :
    readSummary? (.object [("files", v), ("summary", .object [("files_processed", files),
      ("files_failed", failed), ("exception_count", exceptions), ("error_count", errors),
      ("warning_count", warnings)])]) =
    (do return ⟨← files.asNat?, ← failed.asNat?, ← exceptions.asNat?, ← errors.asNat?,
      ← warnings.asNat?⟩) := by
  simp [readSummary?, Json.Value.get?, Entries.lookup_cons]

theorem readSummary?_resultsValue {files : List FileReport} (h : (Summary.of files).Fits) :
    readSummary? (resultsValue files) = some (.of files) := by
  have hfailed := Nat.lt_of_le_of_lt (Summary.failed_le_files files) h.files
  rw [resultsValue, summaryValue, readSummary?_object, Json.Value.asNat?_ofNat h.files,
    Json.Value.asNat?_ofNat hfailed, Json.Value.asNat?_ofNat h.exceptions,
    Json.Value.asNat?_ofNat h.errors, Json.Value.asNat?_ofNat h.warnings]
  rfl

/-- A text that is read as results with these totals, going down no more than
so many levels. -/
def States (levels : Nat) (text : String) (s : Summary) : Prop :=
  ∃ v, Json.Value.read text.toList levels = .ok v ∧ readSummary? v = some s

theorem states_format {files : List FileReport} (legible : ∀ f ∈ files, f.Legible)
    (fits : (Summary.of files).Fits) (f : JsonFormat) {levels : Nat}
    (hdepth : (resultsValue files).depth ≤ levels) : States levels (f.format files) (.of files) :=
  ⟨_, read_format legible f hdepth, readSummary?_resultsValue fits⟩

end JsonFormat

end VectorLint
