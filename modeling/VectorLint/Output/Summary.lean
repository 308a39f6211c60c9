/-
The results of linting files, and their totals.
-/
import VectorLint.Report.Basic

namespace VectorLint

/-- The outcome of linting one input. -/
structure FileReport where
  input : String
  outcome : Except ParseFailure Report

def FileReport.passed (f : FileReport) : Bool :=
  match f.outcome with
  | .ok report => report.passed
  | .error _ => false

structure Summary where
  files : Nat
  failed : Nat
  exceptions : Nat
  errors : Nat
  warnings : Nat
deriving DecidableEq, Repr

namespace Summary

def zero : Summary := ⟨0, 0, 0, 0, 0⟩

def add (a b : Summary) : Summary :=
  ⟨a.files + b.files, a.failed + b.failed, a.exceptions + b.exceptions, a.errors + b.errors,
    a.warnings + b.warnings⟩

/-- The totals of one file; a parse failure counts as an error. -/
def ofFile (f : FileReport) : Summary :=
  let failed := if f.passed then 0 else 1
  match f.outcome with
  | .ok report =>
    ⟨1, failed, report.exceptions.length, report.errors.length, report.warnings.length⟩
  | .error _ => ⟨1, failed, 0, 1, 0⟩

/-- The totals of files. -/
def of (files : List FileReport) : Summary :=
  files.foldr (fun f s => (ofFile f).add s) zero

end Summary

end VectorLint
