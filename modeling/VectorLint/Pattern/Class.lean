/-
Classes of characters as they are written in patterns, and which characters
they contain.
-/
import VectorLint.Unicode.Age
import VectorLint.Unicode.Break
import VectorLint.Unicode.CaseFolding

namespace VectorLint.Pattern

/-- The classes that are a backslash and a letter. -/
inductive PerlClass
  | digit
  | space
  | word
deriving DecidableEq, Repr

/-- The classes named between `[:` and `:]`, all of them ASCII. -/
inductive PosixClass
  | alnum
  | alpha
  | ascii
  | blank
  | cntrl
  | digit
  | graph
  | lower
  | print
  | punct
  | space
  | upper
  | word
  | xdigit
deriving DecidableEq, Repr

/-- The classes of characters that have a property. -/
inductive Property
  | any
  | assigned
  | ascii
  | categories (names : List String)
  | script (code : String)
  /-- The characters used in a script, also those that are not its own. -/
  | usedIn (code : String)
  /-- The characters assigned in a version or before it. -/
  | age (version : String)
  | graphemeBreak (value : String)
  | wordBreak (value : String)
  | sentenceBreak (value : String)
  | binary (name : String)
deriving DecidableEq, Repr

inductive SetOperation
  | intersection
  | difference
  | symmetricDifference
deriving DecidableEq, Repr

mutual

inductive ClassItem
  | range (first last : Char)
  | perl (kind : PerlClass) (negated : Bool)
  | posix (kind : PosixClass) (negated : Bool)
  | property (p : Property) (negated : Bool)
  /-- A class in square brackets. -/
  | bracket (negated : Bool) (set : ClassSet)

inductive ClassSet
  | union (items : List ClassItem)
  | operation (op : SetOperation) (left right : ClassSet)

end

/-- How a class is read: over all characters or over ASCII, and whether case
counts. -/
structure ClassMode where
  unicode : Bool
  fold : Bool
deriving DecidableEq, Repr

def isAsciiWord (c : Char) : Bool :=
  c.isAlphanum || c = '_'

def PerlClass.contains (unicode : Bool) (kind : PerlClass) (c : Char) : Bool :=
  match kind, unicode with
  | .digit, true => Unicode.category c = "Nd"
  | .digit, false => c.isDigit
  | .space, true => Text.isBlank c
  | .space, false => c.toNat = 0x20 || (9 ≤ c.toNat && c.toNat ≤ 13)
  | .word, true => Unicode.isWord c
  | .word, false => isAsciiWord c

def PosixClass.contains (kind : PosixClass) (c : Char) : Bool :=
  let n := c.toNat
  match kind with
  | .alnum => c.isAlphanum
  | .alpha => c.isAlpha
  | .ascii => n < 0x80
  | .blank => n = 9 || n = 0x20
  | .cntrl => n < 0x20 || n = 0x7F
  | .digit => c.isDigit
  | .graph => 0x21 ≤ n && n ≤ 0x7E
  | .lower => 'a' ≤ c && c ≤ 'z'
  | .print => 0x20 ≤ n && n ≤ 0x7E
  | .punct => 0x21 ≤ n && n ≤ 0x7E && !c.isAlphanum
  | .space => n = 0x20 || (9 ≤ n && n ≤ 13)
  | .upper => 'A' ≤ c && c ≤ 'Z'
  | .word => isAsciiWord c
  | .xdigit => c.isDigit || ('a' ≤ c && c ≤ 'f') || ('A' ≤ c && c ≤ 'F')

def Property.contains (p : Property) (c : Char) : Bool :=
  match p with
  | .any => true
  | .assigned => Unicode.category c ≠ "Cn"
  | .ascii => c.toNat < 0x80
  | .categories names => Unicode.inCategories names c
  | .script code => Unicode.script c = code
  | .usedIn code => (Unicode.scriptExtensions c).contains code
  | .age version => Unicode.isAssignedIn version c
  | .graphemeBreak value => ((Unicode.graphemeBreak? value).map (· c)).getD false
  | .wordBreak value => ((Unicode.wordBreak? value).map (· c)).getD false
  | .sentenceBreak value => ((Unicode.sentenceBreak? value).map (· c)).getD false
  | .binary name => ((Unicode.property? name).map (· c)).getD false

/-- The characters that differ from `c` in case only. -/
def variants (unicode : Bool) (c : Char) : List Char :=
  if unicode then (Unicode.caseVariants c.toNat).map Char.ofNat
  else if 'a' ≤ c ∧ c ≤ 'z' then [c.toUpper]
  else if 'A' ≤ c ∧ c ≤ 'Z' then [c.toLower]
  else []

/-- Whether `p` holds of a character or, where case does not count, of one
that differs from it in case only. -/
def holdsUpToCase (mode : ClassMode) (p : Char → Bool) (c : Char) : Bool :=
  p c || (mode.fold && (variants mode.unicode c).any p)

mutual

/-- Whether a class contains a character. Case is folded before a class is
negated. -/
def ClassItem.contains (mode : ClassMode) : ClassItem → Char → Bool
  | .range first last, c => first ≤ c && c ≤ last
  | .perl kind negated, c => kind.contains mode.unicode c != negated
  | .posix kind negated, c => holdsUpToCase mode kind.contains c != negated
  | .property p negated, c => holdsUpToCase mode p.contains c != negated
  | .bracket negated set, c => holdsUpToCase mode (set.contains mode) c != negated

def ClassSet.contains (mode : ClassMode) : ClassSet → Char → Bool
  | .union items, c => anyContains mode items c
  | .operation op left right, c =>
    let l := holdsUpToCase mode (left.contains mode) c
    let r := holdsUpToCase mode (right.contains mode) c
    match op with
    | .intersection => l && r
    | .difference => l && !r
    | .symmetricDifference => l != r

def anyContains (mode : ClassMode) : List ClassItem → Char → Bool
  | [], _ => false
  | item :: items, c => item.contains mode c || anyContains mode items c

end

mutual

/-- Whether a class that is read over ASCII keeps to it: it names no other
character, and none comes in by negation. -/
def ClassItem.isAscii (mode : ClassMode) : ClassItem → Bool
  | .range _ last => last.toNat < 0x80
  | .perl _ negated | .posix _ negated => !negated
  | .property .. => false
  | .bracket negated set =>
    set.isAscii mode && !(ClassItem.bracket negated set).contains mode '\u0080'

def ClassSet.isAscii (mode : ClassMode) : ClassSet → Bool
  | .union items => allAscii mode items
  | .operation _ left right => left.isAscii mode && right.isAscii mode

def allAscii (mode : ClassMode) : List ClassItem → Bool
  | [] => true
  | item :: items => item.isAscii mode && allAscii mode items

end

end VectorLint.Pattern
