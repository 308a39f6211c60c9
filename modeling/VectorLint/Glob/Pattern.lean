/-
Patterns for paths: `?` stands for a character, `*` for any characters,
brackets for a character out of a class, and `**` as a whole step of a path
for any number of steps.
-/
import VectorLint.Text.Split

namespace VectorLint.Glob

/-- Why a text is no pattern, and where it goes wrong. -/
inductive Fault
  /-- More than two stars in a row. -/
  | stars (position : Nat)
  /-- Two stars that are no whole step. -/
  | partialStep (position : Nat)
  /-- A bracket that is not closed. -/
  | brackets (position : Nat)
deriving DecidableEq, Repr

def Fault.message : Fault → String
  | .stars p => text p "wildcards are either regular `*` or recursive `**`"
  | .partialStep p => text p "recursive wildcards must form a single path component"
  | .brackets p => text p "invalid range pattern"
where
  text (position : Nat) (reason : String) : String :=
    "Pattern syntax error near position " ++ position.repr ++ ": " ++ reason

/-- The first and the last character of each range of a class. -/
abbrev CharClass := List (Char × Char)

inductive Piece
  | char (c : Char)
  | anyChar
  | oneOf (members : CharClass)
  | noneOf (members : CharClass)
  | anyChars
  | anySteps
deriving DecidableEq, Repr

abbrev Pattern := List Piece

/-! ## Reading -/

/-- The class between brackets; a dash between two characters makes a
range. -/
def readClass : List Char → CharClass
  | first :: '-' :: last :: s => (first, last) :: readClass s
  | c :: s => (c, c) :: readClass s
  | [] => []

/-- What stands before the first closing bracket, and what behind it. -/
def spanBracket : List Char → Option (List Char × List Char)
  | [] => none
  | c :: s => if c = ']' then some ([], s) else (spanBracket s).map fun (a, b) => (c :: a, b)

/-- The piece in brackets, behind the opening one, and what follows it. The
first character of the class may be a closing bracket. -/
def readBrackets (s : List Char) : Option (Piece × List Char) :=
  match s with
  | '!' :: c :: s => (spanBracket s).map fun (members, s) => (.noneOf (readClass (c :: members)), s)
  | ['!'] | [] => none
  | c :: s => (spanBracket s).map fun (members, s) => (.oneOf (readClass (c :: members)), s)

/-- Reads pieces; `position` characters are before them, and `stepStarts`
says whether the last of these is a slash, or there is none. -/
def readPieces : (fuel position : Nat) → (stepStarts : Bool) → List Char → Except Fault Pattern
  | 0, _, _, _ => .ok []
  | _, _, _, [] => .ok []
  | fuel + 1, position, stepStarts, c :: s =>
    let continueAt (piece : Piece) (stepStarts : Bool) (rest : List Char) : Except Fault Pattern := do
      return piece :: (← readPieces fuel (position + (s.length + 1 - rest.length)) stepStarts rest)
    match c, s with
    | '?', s => continueAt .anyChar false s
    | '*', '*' :: '*' :: _ => .error (.stars (position + 2))
    | '*', '*' :: s =>
      if !stepStarts then .error (.partialStep (position - 1))
      else match s with
        | [] => continueAt .anySteps false []
        | '/' :: s => continueAt .anySteps true s
        | _ => .error (.partialStep (position + 2))
    | '*', s => continueAt .anyChars false s
    | '[', s =>
      match readBrackets s with
      | some (piece, rest) => continueAt piece false rest
      | none => .error (.brackets position)
    | c, s => continueAt (.char c) (c = '/') s

/-- Reads a pattern. -/
def Pattern.parse (s : String) : Except Fault Pattern :=
  readPieces s.toList.length 0 true s.toList

/-! ## Matching -/

def CharClass.contains (members : CharClass) (c : Char) : Bool :=
  members.any fun (first, last) => first ≤ c && c ≤ last

/-- Given for each tail of a text, the longest first, whether the rest of a
pattern matches it: the same for the pattern with a single character in
front. -/
def matchChar (accepts : Char → Bool) : List Char → List Bool → List Bool
  | c :: s, _ :: after => (accepts c && after.headD false) :: matchChar accepts s after
  | _, _ => [false]

/-- The same with any characters in front. -/
def matchChars : List Bool → List Bool
  | [] => []
  | m :: after =>
    let later := matchChars after
    (m || later.headD false) :: later

/-- Whether the rest of the pattern matches behind some later slash, or at the
end. -/
def matchLaterStep : List Char → List Bool → List Bool
  | c :: s, _ :: after =>
    let later := matchLaterStep s after
    (c = '/' && after.headD false || later.headD false) :: later
  | _, after => after

/-- Which tails of a text a pattern matches, the longest tail first. -/
def matchTails : Pattern → List Char → List Bool
  | [], s => List.replicate s.length false ++ [true]
  | piece :: rest, s =>
    let after := matchTails rest s
    match piece with
    | .char c => matchChar (· = c) s after
    | .anyChar => matchChar (fun _ => true) s after
    | .oneOf members => matchChar members.contains s after
    | .noneOf members => matchChar (fun c => !members.contains c) s after
    | .anyChars => matchChars after
    | .anySteps => List.zipWith (· || ·) after (matchLaterStep s after)

/-- Whether a pattern matches a whole text. -/
def Pattern.isMatch (p : Pattern) (text : String) : Bool :=
  (matchTails p text.toList).headD false

def Piece.char? : Piece → Option Char
  | .char c => some c
  | _ => none

/-- The text that a pattern without wildcards stands for. -/
def Pattern.literal? (p : Pattern) : Option String :=
  (p.mapM Piece.char?).map String.ofList

/-- Whether a pattern for a step stands for any number of steps. -/
def Pattern.isRecursive (p : Pattern) : Bool :=
  p.contains .anySteps

end VectorLint.Glob
