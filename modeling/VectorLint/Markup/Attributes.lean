/-
The attributes in the content of a tag, read one character at a time.
Positions are bytes of that content.
-/
import VectorLint.Markup.Event
import VectorLint.Markup.Reference

namespace VectorLint.Markup

inductive AttributeFault
  | expectedEquals (position : Nat)
  | expectedValue (position : Nat)
  | unquotedValue (position : Nat)
  | unclosedQuote (position : Nat) (quote : Char)
  | duplicate (position previous : Nat)
  | reference (fault : ReferenceFault)
deriving DecidableEq, Repr

def AttributeFault.message : AttributeFault → String
  | .expectedEquals position =>
    "position " ++ position.repr ++ ": attribute key must be directly followed by `=` or space"
  | .expectedValue position =>
    "position " ++ position.repr ++ ": `=` must be followed by an attribute value"
  | .unquotedValue position =>
    "position " ++ position.repr ++ ": attribute value must be enclosed in `\"` or `'`"
  | .unclosedQuote position quote =>
    "position " ++ position.repr ++ ": missing closing quote `" ++ quote.toString ++
      "` in attribute value"
  | .duplicate position previous =>
    "position " ++ position.repr ++ ": duplicated attribute, previous declaration at position " ++
      previous.repr
  | .reference fault => fault.message

/-- An attribute whose name starts at the byte `start`. -/
structure Attribute where
  start : Nat
  name : List Char
  value : List Char
deriving DecidableEq, Repr

/-- What the reader expects or is inside of; names and values are kept
backwards while they are read. -/
inductive AttributeMode
  | between
  | name (start : Nat) (seen : List Char)
  /-- Behind a name and a blank. -/
  | equals (start : Nat) (name : List Char)
  /-- Behind the equals sign. -/
  | quote (start : Nat) (name : List Char)
  | value (start : Nat) (name : List Char) (quote : Char) (seen : List Char)

/-- The mode behind the equals sign; a name must be new. -/
def behindEquals (done : List Attribute) (start : Nat) (name : List Char) :
    Except AttributeFault AttributeMode :=
  match done.find? (·.name = name) with
  | some previous => .error (.duplicate start previous.start)
  | none => .ok (.quote start name)

/-- Reads what is left of a content of which `position` bytes are read. -/
def readAttributes : (position : Nat) → AttributeMode → (done : List Attribute) → List Char →
    Except AttributeFault (List Attribute)
  | position, mode, done, [] =>
    match mode with
    | .between => .ok done.reverse
    | .name .. | .equals .. => .error (.expectedEquals position)
    | .quote .. => .error (.expectedValue position)
    | .value _ _ quote _ => .error (.unclosedQuote position quote)
  | position, mode, done, c :: s =>
    let next := position + c.utf8Size
    match mode with
    | .between =>
      readAttributes next (if isSpace c then .between else .name position [c]) done s
    | .name start seen =>
      if c = '=' then
        match behindEquals done start seen.reverse with
        | .ok mode => readAttributes next mode done s
        | .error fault => .error fault
      else
        readAttributes next
          (if isSpace c then .equals start seen.reverse else .name start (c :: seen)) done s
    | .equals start name =>
      if c = '=' then
        match behindEquals done start name with
        | .ok mode => readAttributes next mode done s
        | .error fault => .error fault
      else if isSpace c then readAttributes next (.equals start name) done s
      else .error (.expectedEquals position)
    | .quote start name =>
      if c = '"' ∨ c = '\'' then readAttributes next (.value start name c []) done s
      else if isSpace c then readAttributes next (.quote start name) done s
      else .error (.unquotedValue position)
    | .value start name quote seen =>
      if c = quote then
        match resolve seen.reverse with
        | .ok value => readAttributes next .between (⟨start, name, value⟩ :: done) s
        | .error fault => .error (.reference fault)
      else readAttributes next (.value start name quote (c :: seen)) done s

/-- The attributes of a tag, in order. -/
def attributes (content : List Char) : Except AttributeFault (List Attribute) :=
  let name := tagName content
  readAttributes (Text.byteLength name) .between [] (content.drop name.length)

end VectorLint.Markup
