/-
References inside texts and attribute values: the five predefined entities
and characters by number.
-/
import VectorLint.Text.Bytes
import VectorLint.Text.Digit
import VectorLint.Text.Split

namespace VectorLint.Markup

/-- Why digits name no character. -/
inductive CharacterFault
  | sign
  | empty
  | invalidDigit
  | overflow
  | nul
  | noCharacter (code : Nat)
deriving DecidableEq, Repr

/-- Ranges are bytes of the text that holds the reference. -/
inductive ReferenceFault
  /-- No `;` comes before the next `&` or the end. -/
  | unterminated (start stop : Nat)
  | unknown (start stop : Nat) (name : List Char)
  | character (fault : CharacterFault)
deriving DecidableEq, Repr

def CharacterFault.message : CharacterFault → String
  | .sign => "unexpected number sign"
  | .empty => "cannot parse integer from empty string"
  | .invalidDigit => "invalid digit found in string"
  | .overflow => "number too large to fit in target type"
  | .nul => "0x0 character is not permitted in XML"
  | .noCharacter code => "`" ++ code.repr ++ "` is not a valid codepoint"

def ReferenceFault.message : ReferenceFault → String
  | .unterminated start stop =>
    "Error while escaping character at range " ++ start.repr ++ ".." ++ stop.repr ++
      ": Cannot find ';' after '&'"
  | .unknown start stop name =>
    "at " ++ start.repr ++ ".." ++ stop.repr ++ ": unrecognized entity `" ++ String.ofList name ++
      "`"
  | .character fault => "invalid character reference: " ++ fault.message

/-- Reads further digits into a number of 32 bits; the first digit at fault
decides which fault it is. -/
def readDigits (radix value : Nat) : List Char → Except CharacterFault Nat
  | [] => .ok value
  | c :: digits =>
    match Text.digitValue? radix c with
    | none => .error .invalidDigit
    | some d =>
      if value * radix + d < UInt32.size then readDigits radix (value * radix + d) digits
      else .error .overflow

def readNumeral (radix : Nat) (digits : List Char) : Except CharacterFault Nat :=
  match digits with
  | [] => .error .empty
  | '+' :: _ | '-' :: _ => .error .sign
  | digits => readDigits radix 0 digits

/-- The character that the text behind `#` numbers, in decimal or, behind an
`x`, in hexadecimal. -/
def numberedCharacter (text : List Char) : Except CharacterFault Char := do
  let code ← match text with
    | 'x' :: digits => readNumeral 16 digits
    | digits => readNumeral 10 digits
  if code = 0 then throw .nul
  if code.isValidChar then return Char.ofNat code
  throw (.noCharacter code)

/-- The predefined entities. -/
def entities : List (List Char × Char) :=
  [(['l', 't'], '<'), (['g', 't'], '>'), (['a', 'm', 'p'], '&'), (['a', 'p', 'o', 's'], '\''),
    (['q', 'u', 'o', 't'], '"')]

/-- The character of a reference whose name takes the bytes from `start` to
`stop`. -/
def referenced (name : List Char) (start stop : Nat) : Except ReferenceFault Char :=
  match name with
  | '#' :: text => (numberedCharacter text).mapError .character
  | name =>
    match entities.lookup name with
    | some c => .ok c
    | none => .error (.unknown start stop name)

/-- Where the resolving of references stands. -/
inductive Resolving
  | plain
  /-- Inside a reference whose `&` is at `start`; its name is kept backwards. -/
  | reference (start : Nat) (name : List Char)

/-- Resolves the references of what is left of a text of `size` bytes, of
which `offset` are read; `done` is the text resolved so far, backwards. -/
def resolveFrom (size : Nat) : (offset : Nat) → Resolving → (done : List Char) → List Char →
    Except ReferenceFault (List Char)
  | _, .plain, done, [] => .ok done.reverse
  | _, .reference start _, _, [] => .error (.unterminated start size)
  | offset, .plain, done, c :: s =>
    if c = '&' then resolveFrom size (offset + 1) (.reference offset []) done s
    else resolveFrom size (offset + c.utf8Size) .plain (c :: done) s
  | offset, .reference start name, done, c :: s =>
    if c = '&' then .error (.unterminated start size)
    else if c = ';' then
      match referenced name.reverse (start + 1) offset with
      | .ok c => resolveFrom size (offset + 1) .plain (c :: done) s
      | .error fault => .error fault
    else resolveFrom size (offset + c.utf8Size) (.reference start (c :: name)) done s

/-- The text with its references resolved. -/
def resolve (s : List Char) : Except ReferenceFault (List Char) :=
  resolveFrom (Text.byteLength s) 0 .plain [] s

end VectorLint.Markup
