/-
The tokens of YAML text. Where a block begins and ends follows from the
columns of lines, and becomes tokens of its own. That a word is a key is seen
only at the colon behind it, so the token for the key goes in front of tokens
that are read already.
-/
import VectorLint.Yaml.Scalar
import VectorLint.Yaml.Tag

namespace VectorLint.Yaml

inductive Token
  | directive (d : Directive)
  | documentStart
  | documentEnd
  | blockSequenceStart
  | blockMappingStart
  | blockEnd
  | flowSequenceStart
  | flowSequenceEnd
  | flowMappingStart
  | flowMappingEnd
  | blockEntry
  | flowEntry
  | key
  | value
  | alias (name : String)
  | anchor (name : String)
  | tag (t : WrittenTag)
  | scalar (plain : Bool) (text : String)
  | streamEnd
deriving DecidableEq, Repr

/-- A word that becomes a key if a colon follows it. -/
structure PossibleKey where
  spot : Spot
  /-- How many tokens stand before it. -/
  place : Nat
  /-- Whether it stands where a block can only go on with a key. -/
  required : Bool

/-- How far a key may reach. -/
def maxKeyLength : Nat := 1024

/-- The state of reading tokens. The margin of a block is one more than its
column. -/
structure Layout where
  /-- The margins of the open blocks, the innermost first. -/
  margins : List Nat
  /-- The possible key of the innermost flow collection, or else of the
  block. -/
  candidate : Option PossibleKey
  /-- The possible keys around it. -/
  outer : List (Option PossibleKey)
  /-- Whether a key may begin here. -/
  keyAllowed : Bool
  /-- The tokens so far, the newest first. -/
  tokens : List Token

namespace Layout

def start : Layout := ⟨[], none, [], true, []⟩

def margin (l : Layout) : Nat :=
  l.margins.head?.getD 0

def inFlow (l : Layout) : Bool :=
  !l.outer.isEmpty

def add (l : Layout) (t : Token) : Layout :=
  { l with tokens := t :: l.tokens }

def allowKey (l : Layout) (allowed : Bool) : Layout :=
  { l with keyAllowed := allowed }

/-- Opens a block at a column, unless one is open there. -/
def openBlock (l : Layout) (column : Nat) (t : Token) : Layout :=
  if l.inFlow || column < l.margin then l
  else { l with margins := (column + 1) :: l.margins, tokens := t :: l.tokens }

/-- Closes the blocks whose margin is wider than the given one. -/
def closeBlocks (l : Layout) (margin : Nat) : Layout :=
  if l.inFlow then l
  else
    let closed := (l.margins.takeWhile (margin < ·)).length
    { l with
      margins := l.margins.drop closed
      tokens := List.replicate closed .blockEnd ++ l.tokens }

/-- Whether a key is given up at a place: it ends on its line and is not too
long. -/
def isStale (p : Spot) (k : PossibleKey) : Bool :=
  k.spot.line < p.line || k.spot.index + maxKeyLength < p.index

/-- Gives up stale keys; a required one is missed. -/
def dropStale (l : Layout) (p : Spot) : Option Layout :=
  let drop (k : Option PossibleKey) : Option (Option PossibleKey) :=
    match k with
    | some k => if isStale p k then (if k.required then none else some none) else some (some k)
    | none => some none
  do return { l with candidate := ← drop l.candidate, outer := ← l.outer.mapM drop }

/-- Gives up the possible key. -/
def dropCandidate (l : Layout) : Option Layout :=
  if l.candidate.any (·.required) then none else some { l with candidate := none }

/-- Notes that what begins here may be a key. -/
def noteCandidate (l : Layout) (p : Spot) : Option Layout :=
  if l.keyAllowed then do
    let l ← l.dropCandidate
    let required := !l.inFlow && l.margin = p.column + 1
    return { l with candidate := some ⟨p, l.tokens.length, required⟩ }
  else some l

/-- Puts the token for a key in front of it, and opens its block. -/
def placeKey (l : Layout) (k : PossibleKey) : Layout :=
  let newer := l.tokens.length - k.place
  let before := ({ l with tokens := l.tokens.drop newer }).openBlock k.spot.column .blockMappingStart
  { before with
    tokens := l.tokens.take newer ++ .key :: before.tokens
    candidate := none
    keyAllowed := false }

/-- A bracket that opens a flow collection. -/
def openFlow (l : Layout) (p : Spot) (t : Token) : Option Layout := do
  let l ← l.noteCandidate p
  return { (l.add t) with candidate := none, outer := l.candidate :: l.outer, keyAllowed := true }

/-- A bracket that closes a flow collection. -/
def closeFlow (l : Layout) (t : Token) : Option Layout := do
  let l ← l.dropCandidate
  let l := match l.outer with
    | [] => l
    | k :: outer => { l with candidate := k, outer := outer }
  return (l.add t).allowKey false

/-- A dash or question mark that begins an entry of a block. -/
def beginEntry (l : Layout) (p : Spot) (block t : Token) (allowed : Bool) : Option Layout :=
  if !l.inFlow && !l.keyAllowed then none
  else do
    let l ← (l.openBlock p.column block).dropCandidate
    return (l.add t).allowKey allowed

/-- The colon behind a key. -/
def beginValue (l : Layout) (p : Spot) : Option Layout :=
  match l.candidate with
  | some k => some ((l.placeKey k).add .value)
  | none =>
    if !l.inFlow && !l.keyAllowed then none
    else some (((l.openBlock p.column .blockMappingStart).add .value).allowKey !l.inFlow)

/-- A mark that bounds a document or begins a directive ends all blocks. -/
def leaveBlocks (l : Layout) : Option Layout := do
  return (← (l.closeBlocks 0).dropCandidate).allowKey false

/-- Goes over blanks, comments and line breaks. A tab is a blank only where no
key may begin. -/
def skipSpace (inFlow : Bool) : (comment keyAllowed : Bool) → Source → Bool × Source
  | _, keyAllowed, [] => (keyAllowed, [])
  | comment, keyAllowed, p :: s =>
    if isBreak p.char then skipSpace inFlow false (keyAllowed || !inFlow) s
    else if comment || p.char = ' ' || (p.char = '\t' && (inFlow || !keyAllowed)) ||
        (p.char = '\ufeff' && p.index = 0) then
      skipSpace inFlow comment keyAllowed s
    else if p.char = '#' then skipSpace inFlow true keyAllowed s
    else (keyAllowed, p :: s)

/-- Characters that begin no plain scalar, or only before a further
character. -/
def isIndicator (c : Char) : Bool :=
  ['-', '?', ':', ',', '[', ']', '\x7b', '\x7d', '#', '&', '*', '!', '|', '>', '\'', '"', '%', '@',
    '\x60'].contains c

def beginsPlain (inFlow : Bool) (c : Char) (rest : Source) : Bool :=
  if c = '-' then !(rest.charAt? 0).any isBlank
  else if c = '?' || c = ':' then !inFlow && !rest.wordEndsAt 0
  else !(isIndicator c || isBlank c || isBreak c)

/-- Reads a scalar that may be a key. -/
def addScalar (l : Layout) (p : Spot) (plain : Bool) (text : List Char) : Option Layout := do
  return ((← l.noteCandidate p).allowKey false).add (.scalar plain (String.ofList text))

/-- Reads the token that begins with `p`. -/
def readToken (l : Layout) (p : Spot) (s : Source) : Option (Layout × Source) := do
  let l := (← l.dropStale p).closeBlocks (p.column + 1)
  let here : Source := p :: s
  if p.column = 0 && p.char = '%' then
    let l ← l.leaveBlocks
    let (d, s) ← readDirective s
    return (l.add (.directive d), s)
  if here.isBoundary then
    let l ← l.leaveBlocks
    return (l.add (if p.char = '-' then .documentStart else .documentEnd), s.drop 2)
  let allowsIndicator := l.inFlow || s.wordEndsAt 0
  match p.char with
  | '[' => return (← l.openFlow p .flowSequenceStart, s)
  | '\x7b' => return (← l.openFlow p .flowMappingStart, s)
  | ']' => return (← l.closeFlow .flowSequenceEnd, s)
  | '\x7d' => return (← l.closeFlow .flowMappingEnd, s)
  | ',' => return (((← l.dropCandidate).allowKey true).add .flowEntry, s)
  | '*' =>
    let l := (← l.noteCandidate p).allowKey false
    let (name, s) ← readAnchor s
    return (l.add (.alias name), s)
  | '&' =>
    let l := (← l.noteCandidate p).allowKey false
    let (name, s) ← readAnchor s
    return (l.add (.anchor name), s)
  | '!' =>
    let l := (← l.noteCandidate p).allowKey false
    let (t, s) ← readTag l.inFlow s
    return (l.add (.tag t), s)
  | '\'' =>
    let (text, s) ← readSingleQuoted [] none s
    return (← l.addScalar p false text, s)
  | '"' =>
    let (text, s) ← readDoubleQuoted (s.length + 1) [] none s
    return (← l.addScalar p false text, s)
  | c =>
    if c = '-' && s.wordEndsAt 0 then
      return (← l.beginEntry p .blockSequenceStart .blockEntry true, s)
    if c = '?' && allowsIndicator then
      return (← l.beginEntry p .blockMappingStart .key !l.inFlow, s)
    if c = ':' && allowsIndicator then return (← l.beginValue p, s)
    if (c = '|' || c = '>') && !l.inFlow then
      let l := (← l.dropCandidate).allowKey true
      let (text, s) ← readBlock (c = '>') l.margin s
      return (l.add (.scalar false (String.ofList text)), s)
    if !beginsPlain l.inFlow c s then none
    let scalar ← readPlain l.inFlow l.margin [c] none s
    let l ← l.addScalar p true scalar.text
    return (l.allowKey scalar.broken, scalar.rest)

/-- Reads all tokens. -/
def readTokens : (fuel : Nat) → Layout → Source → Option (List Token)
  | 0, _, _ => none
  | fuel + 1, l, s => do
    let (keyAllowed, s) := skipSpace l.inFlow false l.keyAllowed s
    let l := l.allowKey keyAllowed
    match s with
    | [] => return ((← l.leaveBlocks).add .streamEnd).tokens.reverse
    | p :: s =>
      let (l, s) ← l.readToken p s
      readTokens fuel l s

end Layout

/-- The tokens of a text. -/
def tokens? (s : List Char) : Option (List Token) :=
  if s.all isAllowed then
    let source := Source.ofText s
    Layout.readTokens (source.length + 1) .start source
  else none

end VectorLint.Yaml
