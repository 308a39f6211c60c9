/-
Reading patterns. The reader either accepts a text or refuses it; why it
refuses does not matter to anyone.
-/
import VectorLint.Pattern.Syntax
import VectorLint.Text.Digit

namespace VectorLint.Pattern

/-- What is left to read, whether blanks and comments are skipped, and the
group names taken so far. -/
structure Cursor where
  rest : List Char
  verbose : Bool
  names : List (List Char)

/-- Drops blanks and comments, which go from `#` to the end of the line. -/
def dropComments : (comment : Bool) → List Char → List Char
  | _, [] => []
  | true, c :: s => dropComments (c ≠ '\n') s
  | false, c :: s =>
    if Text.isBlank c then dropComments false s
    else if c = '#' then dropComments true s
    else c :: s

namespace Cursor

def skip (p : Cursor) : Cursor :=
  if p.verbose then { p with rest := dropComments false p.rest } else p

/-- Behind the next `n` characters. -/
def advance (p : Cursor) (n : Nat) : Cursor :=
  { p with rest := p.rest.drop n }

/-- Behind the next character and what is skipped after it. -/
def next (p : Cursor) : Cursor :=
  (p.advance 1).skip

def startsWith (p : Cursor) (s : String) : Bool :=
  s.toList.isPrefixOf p.rest

/-- Behind blanks, which some places allow at all times. -/
def dropBlanks (p : Cursor) : Cursor :=
  { p with rest := p.rest.dropWhile Text.isBlank }

end Cursor

/-! ## Escapes -/

/-- What a single escape or character stands for. -/
inductive Primitive
  | literal (c : Char) (byte : Bool)
  | dot
  | anchor (a : Anchor)
  | cls (item : ClassItem)

def isMeta (c : Char) : Bool :=
  ['\\', '.', '+', '*', '?', '(', ')', '|', '[', ']', '\x7b', '\x7d', '^', '$', '#', '&', '-',
    '~'].contains c

/-- ASCII characters other than letters, digits and angle brackets may be
escaped. -/
def isEscapable (c : Char) : Bool :=
  isMeta c || (c.toNat < 0x80 && !c.isAlphanum && c ≠ '<' && c ≠ '>')

/-- Reads a fixed number of hexadecimal digits at the cursor. -/
def readHexDigits : (count value : Nat) → Cursor → Option (Nat × Cursor)
  | 0, value, p => some (value, p)
  | count + 1, value, p =>
    match p.rest with
    | [] => none
    | c :: _ =>
      match Text.digitValue? 16 c with
      | none => none
      | some d => readHexDigits count (value * 16 + d) p.next

/-- Reads hexadecimal digits up to a brace, behind the opening brace. -/
def readHexBrace : (fuel : Nat) → (digits : Option Nat) → Cursor → Option (Nat × Cursor)
  | 0, _, _ => none
  | fuel + 1, value, p =>
    match p.rest with
    | [] => none
    | c :: _ =>
      if c = '\x7d' then value.map (·, p.next)
      else
        match Text.digitValue? 16 c with
        | none => none
        | some d => readHexBrace fuel (some (value.getD 0 * 16 + d)) p.next

/-- Reads a character by number, at the letter that says how it is written. -/
def readHex (kind : Char) (p : Cursor) : Option (Primitive × Cursor) := do
  let p := p.next
  let c ← p.rest.head?
  if c = '\x7b' then
    let p := p.next
    let (value, p) ← readHexBrace (p.rest.length + 1) none p
    return (.literal (← Text.charOfNumber? value) false, p)
  else
    let digits := if kind = 'x' then 2 else if kind = 'u' then 4 else 8
    let (value, p) ← readHexDigits digits 0 p
    return (.literal (← Text.charOfNumber? value) (kind = 'x'), p)

/-- A property name in lower case, without blanks, hyphens, underscores and a
leading `is`. -/
def normalName (s : List Char) : String :=
  let lower := s.map Char.toLower
  let (named, short) := match lower with
    | 'i' :: 's' :: rest => (rest, true)
    | _ => (lower, false)
  let kept := named.filter fun c => c ≠ ' ' && c ≠ '_' && c ≠ '-' && c.toNat < 0x80
  if short && kept = ['c'] then "isc" else String.ofList kept

def categoryProperty? (name : String) : Option Property :=
  match name with
  | "any" => some .any
  | "assigned" => some .assigned
  | "ascii" => some .ascii
  | name => (Unicode.categoryNames.lookup name).map .categories

def scriptProperty? (name : String) : Option Property :=
  (Unicode.scriptNames.lookup name).map .script

/-- The property that a name alone stands for. -/
def namedProperty? (s : List Char) : Option Property :=
  let name := normalName s
  let binary :=
    if name = "cf" || name = "sc" || name = "lc" then none
    else (Unicode.property? name).map fun _ => Property.binary name
  binary.or ((categoryProperty? name).or (scriptProperty? name))

/-- The property that a name and a value stand for. -/
def valuedProperty? (name value : List Char) : Option Property :=
  let value := normalName value
  match normalName name with
  | "gc" | "generalcategory" => categoryProperty? value
  | "sc" | "script" => scriptProperty? value
  | "scx" | "scriptextensions" => (Unicode.scriptNames.lookup value).map .usedIn
  | "age" => (Unicode.version? value).map .age
  | "gcb" | "graphemeclusterbreak" =>
    (Unicode.graphemeBreak? value).map fun _ => .graphemeBreak value
  | "wb" | "wordbreak" => (Unicode.wordBreak? value).map fun _ => .wordBreak value
  | "sb" | "sentencebreak" => (Unicode.sentenceBreak? value).map fun _ => .sentenceBreak value
  | _ => none

/-- The two parts of a text around the first place where `mark` stands. -/
def splitAtMark (mark : List Char) : (before s : List Char) → Option (List Char × List Char)
  | _, [] => none
  | before, c :: s =>
    match Text.stripPrefix? mark (c :: s) with
    | some after => some (before.reverse, after)
    | none => splitAtMark mark (c :: before) s

/-- The class that the text between the braces of `\p` stands for. -/
def bracedProperty? (negated : Bool) (s : List Char) : Option ClassItem :=
  match splitAtMark ['!', '='] [] s with
  | some (name, value) => (valuedProperty? name value).map (.property · !negated)
  | none =>
    match (splitAtMark [':'] [] s).or (splitAtMark ['='] [] s) with
    | some (name, value) => (valuedProperty? name value).map (.property · negated)
    | none => (namedProperty? s).map (.property · negated)

/-- Reads up to the closing brace, behind the opening one. -/
def readBraced : (fuel : Nat) → (seen : List Char) → Cursor → Option (List Char × Cursor)
  | 0, _, _ => none
  | fuel + 1, seen, p =>
    match p.rest with
    | [] => none
    | c :: _ =>
      if c = '\x7d' then some (seen.reverse, p.advance 1) else readBraced fuel (c :: seen) p.next

/-- Reads a property class at the `p` or `P`. -/
def readProperty (negated : Bool) (p : Cursor) : Option (Primitive × Cursor) := do
  let p := p.next
  let c ← p.rest.head?
  if c = '\x7b' then
    let p := p.next
    let (name, p) ← readBraced (p.rest.length + 1) [] p
    return (.cls (← bracedProperty? negated name), p)
  else
    guard (c ≠ '\\')
    return (.cls (← (namedProperty? [c]).map (.property · negated)), p.next)

def isBoundaryNameChar (c : Char) : Bool :=
  c.isAlpha || c = '-'

/-- Reads the name of a special word boundary up to its brace. -/
def readBoundaryName : (fuel : Nat) → (seen : List Char) → Cursor → Option (List Char × Cursor)
  | 0, _, _ => none
  | fuel + 1, seen, p =>
    match p.rest with
    | [] => none
    | c :: _ =>
      if isBoundaryNameChar c then readBoundaryName fuel (c :: seen) p.next
      else if c = '\x7d' then some (seen.reverse, p.advance 1)
      else none

/-- Reads what follows `\b`: a special boundary in braces, unless the braces
are a repetition. -/
def readBoundary (p : Cursor) : Option (Primitive × Cursor) :=
  match p.rest with
  | '\x7b' :: _ =>
    let inside := p.next
    match inside.rest with
    | [] => none
    | c :: _ =>
      if isBoundaryNameChar c then do
        let (name, p) ← readBoundaryName (inside.rest.length + 1) [] inside
        match String.ofList name with
        | "start" => return (.anchor .wordStart, p)
        | "end" => return (.anchor .wordStop, p)
        | "start-half" => return (.anchor .wordStartHalf, p)
        | "end-half" => return (.anchor .wordStopHalf, p)
        | _ => none
      else some (.anchor (.boundary false), p)
  | _ => some (.anchor (.boundary false), p)

/-- Reads an escape behind the backslash. -/
def readEscape (p : Cursor) : Option (Primitive × Cursor) :=
  match p.rest with
  | [] => none
  | c :: _ =>
    let behind := p.advance 1
    let perl (kind : PerlClass) (negated : Bool) := some (Primitive.cls (.perl kind negated), behind)
    let char (c : Char) := some (Primitive.literal c false, behind)
    match c with
    | 'x' | 'u' | 'U' => readHex c p
    | 'p' => readProperty false p
    | 'P' => readProperty true p
    | 'd' => perl .digit false
    | 'D' => perl .digit true
    | 's' => perl .space false
    | 'S' => perl .space true
    | 'w' => perl .word false
    | 'W' => perl .word true
    | 'a' => char '\x07'
    | 'f' => char '\x0c'
    | 't' => char '\t'
    | 'n' => char '\n'
    | 'r' => char '\r'
    | 'v' => char '\x0b'
    | 'A' => some (.anchor .textStart, behind)
    | 'z' => some (.anchor .textStop, behind)
    | 'b' => readBoundary behind
    | 'B' => some (.anchor (.boundary true), behind)
    | '<' => some (.anchor .wordStart, behind)
    | '>' => some (.anchor .wordStop, behind)
    | c => if isEscapable c then char c else none

/-! ## Classes -/

def posixClass? (name : String) : Option PosixClass :=
  match name with
  | "alnum" => some .alnum
  | "alpha" => some .alpha
  | "ascii" => some .ascii
  | "blank" => some .blank
  | "cntrl" => some .cntrl
  | "digit" => some .digit
  | "graph" => some .graph
  | "lower" => some .lower
  | "print" => some .print
  | "punct" => some .punct
  | "space" => some .space
  | "upper" => some .upper
  | "word" => some .word
  | "xdigit" => some .xdigit
  | _ => none

/-- Reads a named class at `[:`, if that is what stands there. -/
def readPosix? (p : Cursor) : Option (ClassItem × Cursor) := do
  let s ← Text.stripPrefix? ['[', ':'] p.rest
  let (negated, s) := match s with
    | '^' :: s => (true, s)
    | s => (false, s)
  let (name, rest) := s.span (· ≠ ':')
  let rest ← Text.stripPrefix? [':', ']'] rest
  return (.posix (← posixClass? (String.ofList name)) negated, { p with rest })

/-- The character behind the next one, and behind what is skipped there. -/
def Cursor.peek (p : Cursor) : Option Char :=
  (if p.verbose then dropComments false (p.rest.drop 1) else p.rest.drop 1).head?

/-- Reads a character or an escape of a class. -/
def readClassPrimitive (p : Cursor) : Option (Primitive × Cursor) :=
  match p.rest with
  | [] => none
  | '\\' :: _ => readEscape (p.advance 1)
  | c :: _ => some (.literal c false, p.advance 1)

def Primitive.item? : Primitive → Option ClassItem
  | .literal c _ => some (.range c c)
  | .cls item => some item
  | _ => none

def Primitive.char? : Primitive → Option Char
  | .literal c _ => some c
  | _ => none

/-- Reads an item of a class: a range, or anything single. -/
def readClassItem (p : Cursor) : Option (ClassItem × Cursor) := do
  let (first, p) ← readClassPrimitive p
  let p := p.skip
  let c ← p.rest.head?
  if c ≠ '-' || p.peek = some ']' || p.peek = some '-' then
    return (← first.item?, p)
  else
    let p := p.next
    let (last, p) ← readClassPrimitive p
    let a ← first.char?
    let b ← last.char?
    guard (a ≤ b)
    return (.range a b, p)

/-- A class set: the items read last, joined to what stands before the last
operator. -/
def joinSet (before : Option (SetOperation × ClassSet)) (items : List ClassItem) : ClassSet :=
  match before with
  | none => .union items.reverse
  | some (op, left) => .operation op left (.union items.reverse)

/-- Reads hyphens at the start of a class, which stand for themselves. -/
def readHyphens : (fuel : Nat) → List ClassItem → Cursor → List ClassItem × Cursor
  | 0, items, p => (items, p)
  | fuel + 1, items, p =>
    match p.rest with
    | '-' :: _ => readHyphens fuel (.range '-' '-' :: items) p.next
    | _ => (items, p)

mutual

/-- Reads a class at its opening bracket. A closing bracket that comes first
stands for itself. -/
def readClass : (fuel : Nat) → Cursor → Option (ClassItem × Cursor)
  | 0, _ => none
  | fuel + 1, p =>
    let p := p.next
    let (negated, p) := match p.rest with
      | '^' :: _ => (true, p.next)
      | _ => (false, p)
    let (items, p) := readHyphens (p.rest.length + 1) [] p
    let (items, p) := match items, p.rest with
      | [], ']' :: _ => ([.range ']' ']'], p.next)
      | items, _ => (items, p)
    match readClassSet fuel none items p with
    | none => none
    | some (set, p) => some (.bracket negated set, p)

/-- Reads the rest of a class, given what stands before the last operator and
the items behind it, the last one first. -/
def readClassSet : (fuel : Nat) → Option (SetOperation × ClassSet) → List ClassItem → Cursor →
    Option (ClassSet × Cursor)
  | 0, _, _, _ => none
  | fuel + 1, before, items, p =>
    let p := p.skip
    let operator (op : SetOperation) := readClassSet fuel (some (op, joinSet before items)) [] (p.advance 2)
    match p.rest with
    | [] => none
    | '[' :: _ =>
      match readPosix? p with
      | some (item, p) => readClassSet fuel before (item :: items) p
      | none =>
        match readClass fuel p with
        | some (item, p) => readClassSet fuel before (item :: items) p
        | none => none
    | ']' :: _ => some (joinSet before items, p.advance 1)
    | '&' :: '&' :: _ => operator .intersection
    | '-' :: '-' :: _ => operator .difference
    | '~' :: '~' :: _ => operator .symmetricDifference
    | _ =>
      match readClassItem p with
      | some (item, p) => readClassSet fuel before (item :: items) p
      | none => none

end

/-! ## Repetitions -/

/-- Reads a number of 32 bits, with blanks around it; none where no digit
stands. -/
def readCount (p : Cursor) : Option (Option Nat × Cursor) :=
  let p := p.dropBlanks
  let rec digits : (fuel : Nat) → Option Nat → Cursor → Option Nat × Cursor
    | 0, n, p => (n, p)
    | fuel + 1, n, p =>
      match p.rest with
      | c :: _ =>
        if c.isDigit then digits fuel (some (n.getD 0 * 10 + (c.toNat - '0'.toNat))) p.next
        else (n, p)
      | [] => (n, p)
  let (n, p) := digits (p.rest.length + 1) none p
  let p := p.dropBlanks
  match n with
  | none => some (none, p)
  | some n => if n < UInt32.size then some (some n, p) else none

/-- Reads a repetition count behind its opening brace; the least count has to
be there. -/
def readCounts (p : Cursor) : Option ((Nat × Option Nat) × Cursor) := do
  guard !p.rest.isEmpty
  let (least, p) ← readCount p
  let close (range : Nat × Option Nat) (p : Cursor) : Option ((Nat × Option Nat) × Cursor) :=
    if p.rest.head? = some '\x7d' then some (range, p.next) else none
  match p.rest with
  | ',' :: _ =>
    let p := p.next
    if p.rest.head? = some '\x7d' then close (← least, none) p
    else
      let least ← least
      let (most, p) ← readCount p
      let most ← most
      let (range, p) ← close (least, some most) p
      guard (least ≤ most)
      return (range, p)
  | _ =>
    let n ← least
    close (n, some n) p

/-- Behind the question mark that makes a repetition lazy, if there is one. -/
def skipLazy (p : Cursor) : Cursor :=
  match p.rest with
  | '?' :: _ => p.advance 1
  | _ => p

/-- The last item repeated; there has to be one, and it cannot be flags. -/
def repeatLast (least : Nat) (most : Option Nat) : List Syntax → Option (List Syntax)
  | [] | .flags _ :: _ => none
  | item :: items => some (.repeated least most item :: items)

/-! ## Groups -/

def flag? (c : Char) : Option Flag :=
  match c with
  | 'i' => some .caseInsensitive
  | 'm' => some .multiLine
  | 's' => some .dotAll
  | 'U' => some .swapGreed
  | 'u' => some .unicode
  | 'R' => some .returns
  | 'x' => some .verbose
  | _ => none

/-- Reads flags up to `:` or `)`. A flag stands only once, and so does the
hyphen behind which flags are cleared; a flag has to follow it. -/
def readFlags : (changes : FlagChange) → (negated dangling : Bool) → List Char →
    Option (FlagChange × List Char)
  | _, _, _, [] => none
  | changes, negated, dangling, c :: s =>
    if c = ':' ∨ c = ')' then if dangling then none else some (changes.reverse, c :: s)
    else if c = '-' then if negated then none else readFlags changes true true s
    else
      match flag? c with
      | none => none
      | some f =>
        if changes.any (·.1 = f) then none
        else readFlags ((f, !negated) :: changes) negated false s

/-- The value that a change gives to the verbose flag. -/
def verboseAfter (old : Bool) (changes : FlagChange) : Bool :=
  (changes.lookup .verbose).getD old

def isNameStart (c : Char) : Bool :=
  c = '_' || Unicode.isAlphabetic c

def isNameRest (c : Char) : Bool :=
  c = '_' || c = '.' || c = '[' || c = ']' || Text.isAlphanumeric c

/-- Reads a group name up to its bracket; it has to be new. -/
def readGroupName (p : Cursor) : Option Cursor :=
  let (name, rest) := p.rest.span (· ≠ '>')
  match name, rest with
  | first :: more, _ :: rest =>
    if isNameStart first && more.all isNameRest && !p.names.contains name then
      some { p with rest, names := name :: p.names }
    else none
  | _, _ => none

/-- What an opening parenthesis begins. -/
inductive Opening
  | flags (changes : FlagChange)
  | group (changes : FlagChange)

/-- Reads behind an opening parenthesis. -/
def readOpening (p : Cursor) : Option (Opening × Cursor) :=
  let p := p.skip
  if p.startsWith "?=" || p.startsWith "?!" || p.startsWith "?<=" || p.startsWith "?<!" then none
  else if p.startsWith "?P<" then (readGroupName (p.advance 3)).map (.group [], ·)
  else if p.startsWith "?<" then (readGroupName (p.advance 2)).map (.group [], ·)
  else if p.startsWith "?" then
    match readFlags [] false false (p.rest.drop 1) with
    | some (changes, ')' :: rest) =>
      if rest.length + 2 = p.rest.length then none else some (.flags changes, { p with rest })
    | some (changes, _ :: rest) => some (.group changes, { p with rest })
    | _ => none
  else some (.group [], p)

/-- The branches of an alternative, the last one first. -/
def joinBranches (items : List Syntax) (branches : List Syntax) : Syntax :=
  match branches with
  | [] => .concat items.reverse
  | branches => .either (.concat items.reverse :: branches).reverse

def Primitive.written : Primitive → Syntax
  | .literal c byte => .literal c byte
  | .dot => .dot
  | .anchor a => .anchor a
  | .cls item => .cls item

/-- Reads alternatives up to a closing parenthesis or the end, given the items
of the current branch and the branches before it, the last ones first. -/
def readAlternatives : (fuel : Nat) → (items branches : List Syntax) → Cursor →
    Option (Syntax × Cursor)
  | 0, _, _, _ => none
  | fuel + 1, items, branches, p =>
    let p := p.skip
    let repetition (least : Nat) (most : Option Nat) :=
      match repeatLast least most items with
      | none => none
      | some items => readAlternatives fuel items branches (skipLazy (p.advance 1))
    match p.rest with
    | [] | ')' :: _ => some (joinBranches items branches, p)
    | '|' :: _ => readAlternatives fuel [] (.concat items.reverse :: branches) (p.advance 1)
    | '(' :: _ =>
      match readOpening (p.advance 1) with
      | none => none
      | some (.flags changes, q) =>
        readAlternatives fuel (.flags changes :: items) branches
          { q with verbose := verboseAfter p.verbose changes }
      | some (.group changes, q) =>
        match readAlternatives fuel [] [] { q with verbose := verboseAfter p.verbose changes } with
        | some (body, q) =>
          match q.rest with
          | ')' :: _ =>
            readAlternatives fuel (.group changes body :: items) branches
              { q.advance 1 with verbose := p.verbose }
          | _ => none
        | none => none
    | '[' :: _ =>
      match readClass (2 * p.rest.length + 2) p with
      | some (item, p) => readAlternatives fuel (.cls item :: items) branches p
      | none => none
    | '?' :: _ => repetition 0 (some 1)
    | '*' :: _ => repetition 0 none
    | '+' :: _ => repetition 1 none
    | '\x7b' :: _ =>
      match readCounts p.next with
      | none => none
      | some ((least, most), p) =>
        match repeatLast least most items with
        | none => none
        | some items => readAlternatives fuel items branches (skipLazy p)
    | '\\' :: _ =>
      match readEscape (p.advance 1) with
      | some (primitive, p) => readAlternatives fuel (primitive.written :: items) branches p
      | none => none
    | '.' :: _ => readAlternatives fuel (.dot :: items) branches (p.advance 1)
    | '^' :: _ => readAlternatives fuel (.anchor .caret :: items) branches (p.advance 1)
    | '$' :: _ => readAlternatives fuel (.anchor .dollar :: items) branches (p.advance 1)
    | c :: _ => readAlternatives fuel (.literal c false :: items) branches (p.advance 1)

/-- The pattern as written, if the text is one. -/
def readSyntax (s : List Char) : Option Syntax := do
  let (written, p) ← readAlternatives (2 * s.length + 2) [] [] ⟨s, false, []⟩
  guard p.rest.isEmpty
  return written

end VectorLint.Pattern

namespace VectorLint

/-- The pattern that a text writes, if it writes one that has a meaning. -/
def Pattern.parse? (s : String) : Option Pattern :=
  match Pattern.readSyntax s.toList with
  | none => none
  | some written =>
    if written.depth > Pattern.maxNesting then none
    else (written.meaning .init).map Prod.fst

end VectorLint
