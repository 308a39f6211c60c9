/-
The scalars of YAML text: plain, quoted and block scalars. Each is read from
behind its first indicator and leaves the rest of the text.
-/
import VectorLint.Text.Digit
import VectorLint.Yaml.Source

namespace VectorLint.Yaml

/-! ## Between words -/

/-- What stands between two words of a plain or quoted scalar. -/
inductive Gap
  /-- Blanks within a line. -/
  | blanks (s : List Char)
  /-- The break that leaves the line, unless it is escaped, and the breaks
  of the empty lines behind it. -/
  | breaks (first : Option Char) (more : List Char)
deriving DecidableEq, Repr

namespace Gap

/-- The text a gap stands for: blanks stand for themselves, a single break
is folded into a blank, and of more breaks the first one is dropped. -/
def text : Gap → List Char
  | .blanks s => s
  | .breaks none more => more
  | .breaks (some '\n') [] => [' ']
  | .breaks (some '\n') more => more
  | .breaks (some c) more => c :: more

/-- The gap with another blank or break; blanks at the ends of lines do not
count. -/
def extend (c : Char) : Option Gap → Gap
  | none | some (.blanks []) => if isBreak c then .breaks (some c) [] else .blanks [c]
  | some (.blanks s) => if isBreak c then .breaks (some c) [] else .blanks (s ++ [c])
  | some (.breaks first more) => if isBreak c then .breaks first (more ++ [c]) else .breaks first more

def isBroken : Option Gap → Bool
  | some (.breaks _ _) => true
  | _ => false

/-- The text read so far, the newest character first, with a gap behind it. -/
def close (read : List Char) (gap : Option Gap) : List Char :=
  match gap with
  | none => read
  | some gap => gap.text.reverse ++ read

end Gap

/-! ## Plain scalars -/

structure PlainScalar where
  text : List Char
  /-- Whether the line was left behind the text. -/
  broken : Bool
  rest : Source

def isFlowIndicator (c : Char) : Bool :=
  c = ',' || c = '[' || c = ']' || c = '\x7b' || c = '\x7d'

/-- Reads a plain scalar. Outside of flow collections it goes on only where a
line is indented to the margin. -/
def readPlain (inFlow : Bool) (margin : Nat) (read : List Char) (gap : Option Gap) :
    Source → Option PlainScalar
  | [] => some ⟨read.reverse, Gap.isBroken gap, []⟩
  | p :: s =>
    let c := p.char
    let ended : PlainScalar := ⟨read.reverse, Gap.isBroken gap, p :: s⟩
    if isBlank c || isBreak c then
      if c = '\t' && Gap.isBroken gap && p.column < margin then none
      else readPlain inFlow margin read (some (Gap.extend c gap)) s
    else if gap.isSome &&
        (c = '#' || Source.isBoundary (p :: s) || (!inFlow && p.column < margin)) then some ended
    else if inFlow && c = ':' && (Source.charAt? s 0).any (fun d => isFlowIndicator d || d = '?') then none
    else if c = ':' && Source.wordEndsAt s 0 || inFlow && isFlowIndicator c then some ended
    else readPlain inFlow margin (c :: Gap.close read gap) none s

/-! ## Quoted scalars -/

/-- What a letter behind a backslash stands for. -/
def escapedChar? : Char → Option Char
  | '0' => some '\x00'
  | 'a' => some '\x07'
  | 'b' => some '\x08'
  | 't' => some '\t'
  | '\t' => some '\t'
  | 'n' => some '\n'
  | 'v' => some '\x0b'
  | 'f' => some '\x0c'
  | 'r' => some '\r'
  | 'e' => some '\x1b'
  | ' ' => some ' '
  | '"' => some '"'
  | '/' => some '/'
  | '\\' => some '\\'
  | 'N' => some '\u0085'
  | '_' => some '\u00a0'
  | 'L' => some '\u2028'
  | 'P' => some '\u2029'
  | _ => none

/-- How many digits of the number of a character follow a letter. -/
def escapedDigits : Char → Option Nat
  | 'x' => some 2
  | 'u' => some 4
  | 'U' => some 8
  | _ => none

/-- The character of an escape behind its backslash, and the rest. -/
def readEscape : Source → Option (Char × Source)
  | [] => none
  | p :: s =>
    match escapedDigits p.char with
    | some n =>
      if s.length < n then none
      else do
        let number ← Text.number? 16 ((s.take n).map (·.char))
        return (← Text.charOfNumber? number, s.drop n)
    | none => (escapedChar? p.char).map (·, s)

/-- Reads a scalar in single quotes; two quotes stand for one. -/
def readSingleQuoted (read : List Char) (gap : Option Gap) : Source → Option (List Char × Source)
  | [] => none
  | p :: s =>
    let c := p.char
    if isBlank c || isBreak c then readSingleQuoted read (some (Gap.extend c gap)) s
    else if Source.isBoundary (p :: s) then none
    else
      let read := Gap.close read gap
      if c ≠ '\'' then readSingleQuoted (c :: read) none s
      else match s with
        | ⟨'\'', _, _, _⟩ :: s => readSingleQuoted ('\'' :: read) none s
        | s => some (read.reverse, s)

/-- Reads a scalar in double quotes; an escaped line break stands for
nothing. -/
def readDoubleQuoted : (fuel : Nat) → (read : List Char) → (gap : Option Gap) → Source →
    Option (List Char × Source)
  | 0, _, _, _ => none
  | _, _, _, [] => none
  | fuel + 1, read, gap, p :: s =>
    let c := p.char
    if isBlank c || isBreak c then readDoubleQuoted fuel read (some (Gap.extend c gap)) s
    else if Source.isBoundary (p :: s) then none
    else
      let read := Gap.close read gap
      if c = '"' then some (read.reverse, s)
      else if c ≠ '\\' then readDoubleQuoted fuel (c :: read) none s
      else if (Source.charAt? s 0).any isBreak then
        readDoubleQuoted fuel read (some (.breaks none [])) (s.drop 1)
      else do
        let (c, s) ← readEscape s
        readDoubleQuoted fuel (c :: read) none s

/-! ## Block scalars -/

/-- Which breaks at the end of a block scalar are kept. -/
inductive Chomping
  | strip
  | clip
  | keep
deriving DecidableEq, Repr

def readChomping (s : Source) : Option Chomping × Source :=
  match s with
  | ⟨'+', _, _, _⟩ :: s => (some .keep, s)
  | ⟨'-', _, _, _⟩ :: s => (some .strip, s)
  | s => (none, s)

/-- The digit that gives the indentation, from 1 to 9, or 0 for none. -/
def readIndentation (s : Source) : Option (Nat × Source) :=
  match s with
  | [] => some (0, [])
  | p :: rest =>
    if p.char = '0' then none
    else if p.char.isDigit then some (p.char.toNat - '0'.toNat, rest)
    else some (0, s)

/-- Reads the chomping and the indentation of a block scalar, in either
order. -/
def readHeader (s : Source) : Option (Chomping × Nat × Source) := do
  match readChomping s with
  | (some chomping, s) =>
    let (indentation, s) ← readIndentation s
    return (chomping, indentation, s)
  | (none, s) =>
    match ← readIndentation s with
    | (0, s) => return (.clip, 0, s)
    | (indentation, s) =>
      let (chomping, s) := readChomping s
      return (chomping.getD .clip, indentation, s)

/-- Reads empty lines and the indentation of the line behind them; `indent`
is 0 while the indentation is not known. Gives the widest column reached, and
the breaks. -/
def readEmptyLines (indent : Nat) : (widest : Nat) → (breaks : List Char) → Source →
    Option (Nat × List Char × Source)
  | widest, breaks, [] => some (widest, breaks, [])
  | widest, breaks, p :: s =>
    let short := indent = 0 || p.column < indent
    if short && p.char = ' ' then readEmptyLines indent widest breaks s
    else if short && p.char = '\t' then none
    else if isBreak p.char then readEmptyLines indent (max widest p.column) (breaks ++ [p.char]) s
    else some (max widest p.column, breaks, p :: s)

/-- A block scalar up to some line: its text, the break behind the last line,
the breaks of empty lines behind that, and whether the last line begins with
a blank. -/
structure BlockScalar where
  text : List Char
  lineBreak : Option Char
  emptyLines : List Char
  indented : Bool

/-- The text with the next line of the scalar still to come. In a folded
scalar the break between two lines that begin with no blank is a blank, or
nothing before empty lines. -/
def BlockScalar.joined (b : BlockScalar) (folded nextIndented : Bool) : List Char :=
  if folded && b.lineBreak = some '\n' && !b.indented && !nextIndented then
    b.text ++ if b.emptyLines.isEmpty then [' '] else b.emptyLines
  else b.text ++ b.lineBreak.toList ++ b.emptyLines

/-- Reads the lines that begin at the column `indent`. -/
def readLines (folded : Bool) (indent : Nat) : (fuel : Nat) → BlockScalar → Source →
    Option (BlockScalar × Source)
  | 0, _, _ => none
  | _, b, [] => some (b, [])
  | fuel + 1, b, p :: s =>
    if p.column ≠ indent then some (b, p :: s)
    else do
      let indented := isBlank p.char
      let (line, rest) := Source.spanChars (fun c => !isBreak c) (p :: s)
      let text := b.joined folded indented ++ line
      let (_, emptyLines, next) ← readEmptyLines indent 0 [] (rest.drop 1)
      readLines folded indent fuel ⟨text, rest.charAt? 0, emptyLines, indented⟩ next

/-- Reads a block scalar; without a given indentation, its first line sets
it, at least at the margin. -/
def readBlock (folded : Bool) (margin : Nat) (s : Source) : Option (List Char × Source) := do
  let (chomping, indentation, s) ← readHeader s
  let s ← s.skipComment
  let given := if indentation = 0 then 0 else margin - 1 + indentation
  let (widest, emptyLines, s) ← readEmptyLines given 0 [] s
  let indent := if given = 0 then max widest (max margin 1) else given
  let (b, s) ← readLines folded indent (s.length + 1) ⟨[], none, emptyLines, false⟩ s
  let kept := match chomping with
    | .strip => b.text
    | .clip => b.text ++ b.lineBreak.toList
    | .keep => b.text ++ b.lineBreak.toList ++ b.emptyLines
  return (kept, s)

end VectorLint.Yaml
