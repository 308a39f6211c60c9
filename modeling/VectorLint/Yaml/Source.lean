/-
YAML text with the place of every character. Line breaks are normalized
before places are given, so a break is always one character.
-/
namespace VectorLint.Yaml

/-- Characters that may stand in a text. -/
def isAllowed (c : Char) : Bool :=
  c = '\t' || c = '\n' || c = '\r' || (' ' ≤ c && c ≤ '~') || c = '\u0085' ||
    ('\u00a0' ≤ c && c ≤ '\ufffd') || 0x10000 ≤ c.toNat

/-- Line breaks that are left when line breaks are normalized. -/
def isBreak (c : Char) : Bool :=
  c = '\n' || c = '\u2028' || c = '\u2029'

def isBlank (c : Char) : Bool :=
  c = ' ' || c = '\t'

/-- Characters of names: of anchors, directives and tag handles. -/
def isWord (c : Char) : Bool :=
  c.isAlphanum || c = '_' || c = '-'

/-- A carriage return, alone or before a line feed, and a next-line character
become a line feed. -/
def normalizeBreaks : List Char → List Char
  | '\r' :: '\n' :: s => '\n' :: normalizeBreaks s
  | '\r' :: s => '\n' :: normalizeBreaks s
  | '\u0085' :: s => '\n' :: normalizeBreaks s
  | c :: s => c :: normalizeBreaks s
  | [] => []

/-- A character and where it stands: how many characters are before it, how
many lines, and how many characters in its line. -/
structure Spot where
  char : Char
  index : Nat
  line : Nat
  column : Nat
deriving DecidableEq, Repr

/-- What is left of a text. -/
abbrev Source := List Spot

namespace Source

def place (index line column : Nat) : List Char → Source
  | [] => []
  | c :: s =>
    ⟨c, index, line, column⟩ ::
      if isBreak c then place (index + 1) (line + 1) 0 s else place (index + 1) line (column + 1) s

def ofText (s : List Char) : Source :=
  place 0 0 0 (normalizeBreaks s)

/-- The character at a distance. -/
def charAt? (s : Source) (n : Nat) : Option Char :=
  (s[n]?).map (·.char)

/-- Whether no word goes on at a distance: a blank, a break or the end is
there. -/
def wordEndsAt (s : Source) (n : Nat) : Bool :=
  match s.charAt? n with
  | none => true
  | some c => isBlank c || isBreak c

def startsWith (s : Source) (word : List Char) : Bool :=
  (s.take word.length).map (·.char) == word

/-- A line that begins with three dashes or dots and then a blank bounds a
document. -/
def isBoundary (s : Source) : Bool :=
  s.head?.any (fun p => p.column = 0) &&
    (s.startsWith ['-', '-', '-'] || s.startsWith ['.', '.', '.']) && s.wordEndsAt 3

/-- The characters at the head that a test holds of, and the rest. -/
def spanChars (p : Char → Bool) (s : Source) : List Char × Source :=
  ((s.takeWhile fun x => p x.char).map (·.char), s.dropWhile fun x => p x.char)

def skipBlanks (s : Source) : Source :=
  s.dropWhile fun x => isBlank x.char

/-- The rest of a line that holds at most a comment, behind its break. -/
def skipComment (s : Source) : Option Source :=
  let s := s.skipBlanks
  let s := if s.charAt? 0 = some '#' then s.dropWhile fun x => !isBreak x.char else s
  match s with
  | [] => some []
  | p :: s => if isBreak p.char then some s else none

end Source

end VectorLint.Yaml
