/-
Cutting a text into events, one character at a time. What is read of the
current piece is kept backwards. The scanner knows the names of the open
tags, so that an end tag that closes no start tag is a fault.
-/
import VectorLint.Markup.Event
import VectorLint.Text.Split

namespace VectorLint.Markup

/-- What the scanner is inside of. -/
inductive Mode
  | text (seen : List Char)
  /-- Just behind `<`. -/
  | bracket
  /-- Inside a tag, possibly inside quotes. -/
  | tag (quoted : Option Char) (seen : List Char)
  /-- Behind `<?`; the question mark is part of what is seen. -/
  | instruction (seen : List Char)
  /-- Just behind `<!`. -/
  | bang
  /-- Behind `<!`, where a `-`, a `[` or a `D` has been met. -/
  | comment (seen : List Char)
  | cdata (seen : List Char)
  | doctype (depth : Nat) (seen : List Char)
deriving DecidableEq, Repr

structure Scan where
  mode : Mode
  /-- Where the current piece starts. -/
  start : Nat
  /-- The number of bytes read. -/
  offset : Nat
  /-- The names of the open tags, the innermost first. -/
  opened : List (List Char)
deriving DecidableEq, Repr

/-- What a piece that has just been closed amounts to. -/
inductive Closed
  | event (e : Event) (opened : List (List Char))
  | fault (f : Fault)

/-- The name in an end tag: blanks at its end do not count, unless there is
nothing else. -/
def endTagName (content : List Char) : List Char :=
  if content.all isSpace then content else (content.reverse.dropWhile isSpace).reverse

def closeEndTag (content : List Char) : List (List Char) → Closed
  | [] => .fault (.unmatchedEnd (endTagName content))
  | expected :: opened =>
    if endTagName content = expected then .event (.endTag (endTagName content)) opened
    else .fault (.mismatchedEnd expected (endTagName content))

/-- A tag, given what was seen between its brackets. -/
def closeTag (seen : List Char) (opened : List (List Char)) : Closed :=
  match seen.reverse, seen with
  | '/' :: content, _ => closeEndTag content opened
  | _, '/' :: content => .event (.emptyTag content.reverse) opened
  | content, _ => .event (.startTag content) (tagName content :: opened)

/-- A processing instruction, where a bracket follows a question mark: it
needs two of them. -/
def closeInstruction (seen : List Char) (opened : List (List Char)) : Closed :=
  match seen with
  | '?' :: _ :: _ => .event .aside opened
  | _ => .fault .unclosedInstruction

/-- A comment, where a bracket follows two hyphens and two more characters. -/
def closeComment (seen : List Char) (opened : List (List Char)) : Closed :=
  match Text.stripPrefix? ['-', '-'] seen.reverse with
  | some content => .event (.comment (content.take (content.length - 2))) opened
  | none => .fault .unclosedComment

def closeCData (seen : List Char) (opened : List (List Char)) : Closed :=
  match Text.stripPrefix? ['[', 'C', 'D', 'A', 'T', 'A', '['] seen.reverse with
  | some content => .event (.cdata (content.take (content.length - 2))) opened
  | none => .fault .unclosedCData

/-- A document type, in any case, needs a name. -/
def closeDoctype (seen : List Char) (opened : List (List Char)) : Closed :=
  match Text.stripPrefix? ['d', 'o', 'c', 't', 'y', 'p', 'e'] (seen.reverse.take 7 |>.map Char.toLower) with
  | none => .fault .unclosedDoctype
  | some _ =>
    if (seen.reverse.drop 7).all isSpace then .fault .missingDoctypeName else .event .aside opened

/-- The result of reading a character. -/
inductive Step
  | more (s : Scan)
  | emit (e : Located) (s : Scan)
  | fail (f : Failure)

namespace Scan

def init : Scan := ⟨.text [], 0, 0, []⟩

/-- Goes on inside the current piece. -/
def stay (s : Scan) (c : Char) (mode : Mode) : Step :=
  .more { s with mode, offset := s.offset + c.utf8Size }

/-- Ends the current piece with the character `c`. -/
def close (s : Scan) (c : Char) (closed : Closed) : Step :=
  let stop := s.offset + c.utf8Size
  match closed with
  | .event e opened => .emit ⟨e, s.start, stop⟩ ⟨.text [], stop, stop, opened⟩
  | .fault f => .fail ⟨f, stop⟩

/-- Reads a character inside a tag. -/
def stepTag (s : Scan) (quoted : Option Char) (seen : List Char) (c : Char) : Step :=
  match quoted with
  | some q => s.stay c (.tag (if c = q then none else some q) (c :: seen))
  | none =>
    if c = '>' then s.close c (closeTag seen s.opened)
    else s.stay c (.tag (if c = '"' ∨ c = '\'' then some c else none) (c :: seen))

def step (s : Scan) (c : Char) : Step :=
  match s.mode with
  | .text seen =>
    if c = '<' then
      let behind : Scan := { s with mode := .bracket, start := s.offset, offset := s.offset + 1 }
      match seen with
      | [] => .more behind
      | seen => .emit ⟨.text seen.reverse, s.start, s.offset⟩ behind
    else s.stay c (.text (c :: seen))
  | .bracket =>
    if c = '!' then s.stay c .bang
    else if c = '?' then s.stay c (.instruction ['?'])
    else s.stepTag none [] c
  | .tag quoted seen => s.stepTag quoted seen c
  | .instruction seen =>
    if c = '>' ∧ seen.head? = some '?' then s.close c (closeInstruction seen s.opened)
    else s.stay c (.instruction (c :: seen))
  | .bang =>
    if c = '-' then s.stay c (.comment ['-'])
    else if c = '[' then s.stay c (.cdata ['['])
    else if c = 'D' ∨ c = 'd' then s.stay c (.doctype 0 [c])
    else .fail ⟨.unknownMarkup, s.start + 1⟩
  | .comment seen =>
    match c, seen with
    | '>', '-' :: '-' :: _ :: _ :: _ => s.close c (closeComment seen s.opened)
    | _, _ => s.stay c (.comment (c :: seen))
  | .cdata seen =>
    match c, seen with
    | '>', ']' :: ']' :: _ => s.close c (closeCData seen s.opened)
    | _, _ => s.stay c (.cdata (c :: seen))
  | .doctype depth seen =>
    if c = '<' then s.stay c (.doctype (depth + 1) (c :: seen))
    else if c = '>' then
      match depth with
      | 0 => s.close c (closeDoctype seen s.opened)
      | depth + 1 => s.stay c (.doctype depth (c :: seen))
    else s.stay c (.doctype depth (c :: seen))

/-- The end of the text: a last text event, or something unclosed. -/
def finish (s : Scan) : List Located × Option Failure :=
  match s.mode with
  | .text [] => ([], none)
  | .text seen => ([⟨.text seen.reverse, s.start, s.offset⟩], none)
  | .bracket | .tag .. => ([], some ⟨.unclosedTag, s.offset⟩)
  | .instruction _ => ([], some ⟨.unclosedInstruction, s.offset⟩)
  | .bang => ([], some ⟨.unknownMarkup, s.start + 1⟩)
  | .comment _ => ([], some ⟨.unclosedComment, s.offset⟩)
  | .cdata _ => ([], some ⟨.unclosedCData, s.offset⟩)
  | .doctype .. => ([], some ⟨.unclosedDoctype, s.offset⟩)

/-- The events of the text that is left, up to the first failure. -/
def run (s : Scan) : List Char → List Located × Option Failure
  | [] => s.finish
  | c :: text =>
    match s.step c with
    | .more s => s.run text
    | .emit e s =>
      let (events, failure) := s.run text
      (e :: events, failure)
    | .fail f => ([], some f)

end Scan

/-- The text without a byte order mark at its start. -/
def dropMark : List Char → List Char
  | '\ufeff' :: text => text
  | text => text

/-- The events of a text, and the failure that ended them if any. A byte
order mark at the start belongs to no event and takes no bytes. -/
def scan (text : List Char) : List Located × Option Failure :=
  Scan.init.run (dropMark text)

end VectorLint.Markup
