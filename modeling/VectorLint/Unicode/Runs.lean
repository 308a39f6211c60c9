/-
Tables of character properties, written as text: runs of characters with a
common value, and ranges of characters.
-/
import VectorLint.Text.Alphanumeric
import VectorLint.Text.Blank

namespace VectorLint.Unicode

def hexDigit (c : Char) : Nat :=
  if c.isDigit then c.toNat - '0'.toNat else c.toNat - 'A'.toNat + 10

def hexValue (s : List Char) : Nat :=
  s.foldl (fun n c => n * 16 + hexDigit c) 0

/-- Runs written as the first character of each, in hexadecimal, and its
value. -/
def readRuns (text : String) : Array (Nat × String) :=
  pairs (Text.words text.toList) #[]
where
  pairs : List (List Char) → Array (Nat × String) → Array (Nat × String)
    | first :: value :: rest, runs => pairs rest (runs.push (hexValue first, String.ofList value))
    | _, runs => runs

/-- The value of the last run that starts at `n` or before it, looked for
between two indices by halving. -/
def lookupRun (runs : Array (Nat × String)) (n : Nat) : (fuel low high : Nat) → String
  | 0, low, _ => (runs[low]?.map Prod.snd).getD ""
  | fuel + 1, low, high =>
    let middle := (low + high) / 2
    if middle ≤ low then (runs[low]?.map Prod.snd).getD ""
    else if (runs[middle]?.map Prod.fst).getD 0 ≤ n then lookupRun runs n fuel middle high
    else lookupRun runs n fuel low middle

def runValue (runs : Array (Nat × String)) (c : Char) : String :=
  lookupRun runs c.toNat runs.size 0 runs.size

/-- Ranges written as one character or two with a hyphen between them. -/
def readRanges (parts : List (List Char)) : List (Nat × Nat) :=
  parts.map fun part =>
    match Text.splitWhere (· = '-') part with
    | [first, last] => (hexValue first, hexValue last)
    | _ => (hexValue part, hexValue part)

/-- The ranges a text consists of. -/
def rangesOf (text : String) : List (Nat × Nat) :=
  readRanges (Text.words text.toList)

/-- Whether a character lies in one of the ranges. -/
def isIn (ranges : List (Nat × Nat)) (c : Char) : Bool :=
  Text.inRanges c.toNat ranges

end VectorLint.Unicode
