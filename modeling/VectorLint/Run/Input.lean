/-
The input of a run: the name of a file, or the text of a document itself.
-/
import VectorLint.Text.Split

namespace VectorLint

/-- Longer inputs are shortened where they are shown. -/
def maxDisplayLength : Nat := 27

/-- The name under which an input is shown: a long one is its first 13 and
its last 14 characters. -/
def displayName (input : String) : String :=
  let s := input.toList
  if s.length ≤ maxDisplayLength then input
  else String.ofList (s.take 13) ++ "..." ++ String.ofList (s.drop (s.length - 14))

/-- Whether an input may name a file: markup and texts of several lines do
not. -/
def looksLikePath (input : String) : Bool :=
  let s := input.toList
  !s.isEmpty && !s.contains '<' && !s.contains '\n'

end VectorLint
