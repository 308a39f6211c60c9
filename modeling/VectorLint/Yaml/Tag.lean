/-
Tags, anchors and directives of YAML text. A tag is a sequence of bytes,
since its escapes write bytes.
-/
import VectorLint.Text.Digit
import VectorLint.Yaml.Source

namespace VectorLint.Yaml

abbrev TagText := List UInt8

/-- A tag as it is written: a handle, which may be empty, and what follows
it. -/
structure WrittenTag where
  handle : List Char
  suffix : TagText
deriving DecidableEq, Repr

def isTagChar (verbatim : Bool) (c : Char) : Bool :=
  isWord c ||
    [';', '/', '?', ':', '@', '&', '=', '+', '$', '.', '!', '~', '*', '\'', '(', ')'].contains c ||
    verbatim && (c = ',' || c = '[' || c = ']')

/-- How many bytes a character has, by its first byte; 0 if no character
begins so. -/
def leadWidth (b : UInt8) : Nat :=
  if b &&& 0x80 = 0 then 1
  else if b &&& 0xE0 = 0xC0 then 2
  else if b &&& 0xF0 = 0xE0 then 3
  else if b &&& 0xF8 = 0xF0 then 4
  else 0

/-- Reads the bytes of a tag. An escaped character is escaped in all of its
bytes: `pending` of them are still to come. -/
def readTagText (verbatim : Bool) (pending : Nat) : Source → Option (TagText × Source)
  | [] => if pending = 0 then some ([], []) else none
  | p :: s =>
    if p.char = '%' then
      match s with
      | high :: low :: s => do
        let n ← Text.number? 16 [high.char, low.char]
        let octet := n.toUInt8
        let width := if pending = 0 then leadWidth octet else pending
        if width = 0 ∨ (pending ≠ 0 ∧ octet &&& 0xC0 ≠ 0x80) then none
        else
          let (text, rest) ← readTagText verbatim (width - 1) s
          return (octet :: text, rest)
      | _ => none
    else if pending ≠ 0 then none
    else if isTagChar verbatim p.char then do
      let (text, rest) ← readTagText verbatim 0 s
      return (p.char.toNat.toUInt8 :: text, rest)
    else some ([], p :: s)

def wordBytes (word : List Char) : TagText :=
  word.map fun c => c.toNat.toUInt8

/-- Reads a handle behind its first exclamation mark: a word, and a second
mark if there is one. -/
def readHandle (s : Source) : List Char × Bool × Source :=
  let (word, s) := s.spanChars isWord
  match s with
  | ⟨'!', _, _, _⟩ :: s => (word, true, s)
  | s => (word, false, s)

/-- Reads a tag behind its first exclamation mark. -/
def readTag (inFlow : Bool) (s : Source) : Option (WrittenTag × Source) := do
  let (tag, rest) ← match s with
    | ⟨'<', _, _, _⟩ :: s =>
      match ← readTagText true 0 s with
      | (suffix, ⟨'>', _, _, _⟩ :: s) =>
        if suffix.isEmpty then none else some (⟨[], suffix⟩, s)
      | _ => none
    | s => do
      let (word, closed, s) := readHandle s
      let (suffix, s) ← readTagText false 0 s
      if closed then
        if suffix.isEmpty then none else some (⟨'!' :: word ++ ['!'], suffix⟩, s)
      else
        match wordBytes word ++ suffix with
        | [] => some (⟨[], wordBytes ['!']⟩, s)
        | suffix => some (⟨['!'], suffix⟩, s)
  if Source.wordEndsAt rest 0 || inFlow && Source.charAt? rest 0 = some ',' then
    some (tag, rest)
  else none

/-- Reads the name of an anchor or an alias. -/
def readAnchor (s : Source) : Option (String × Source) :=
  let (name, rest) := s.spanChars isWord
  let ended := rest.wordEndsAt 0 ||
    (rest.charAt? 0).any ['?', ':', ',', ']', '\x7d', '%', '@', '\x60'].contains
  if !name.isEmpty && ended then some (String.ofList name, rest) else none

/-! ## Directives -/

inductive Directive
  | version (major minor : Nat)
  /-- What a handle stands for. -/
  | tag (handle : List Char) (start : TagText)
deriving DecidableEq, Repr

/-- Reads a number of up to nine digits. -/
def readVersionNumber (s : Source) : Option (Nat × Source) :=
  let (digits, rest) := s.spanChars Char.isDigit
  if digits.length ≤ 9 then (Text.number? 10 digits).map (·, rest) else none

/-- Reads a version behind the name of its directive. -/
def readVersion (s : Source) : Option (Directive × Source) := do
  match ← readVersionNumber s.skipBlanks with
  | (major, ⟨'.', _, _, _⟩ :: s) =>
    let (minor, s) ← readVersionNumber s
    return (.version major minor, s)
  | _ => none

/-- Reads the meaning of a handle behind the name of its directive. -/
def readTagDirective (s : Source) : Option (Directive × Source) := do
  match s.skipBlanks with
  | ⟨'!', _, _, _⟩ :: s =>
    let (word, closed, s) := readHandle s
    let handle ← if closed then some ('!' :: word ++ ['!']) else if word.isEmpty then some ['!'] else none
    if !(Source.charAt? s 0).any isBlank then none
    else
      let (start, s) ← readTagText true 0 s.skipBlanks
      if start.isEmpty || !Source.wordEndsAt s 0 then none else some (.tag handle start, s)
  | _ => none

/-- Reads a directive behind its percent sign, up to the next line. -/
def readDirective (s : Source) : Option (Directive × Source) := do
  let (name, s) := s.spanChars isWord
  if !Source.wordEndsAt s 0 then none
  else
    let (directive, s) ←
      if name = ['Y', 'A', 'M', 'L'] then readVersion s
      else if name = ['T', 'A', 'G'] then readTagDirective s
      else none
    return (directive, ← s.skipComment)

end VectorLint.Yaml
