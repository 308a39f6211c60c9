/-
Reading JSON. Each reader takes the text that is left and gives what it read
with the rest; the first fault met ends the reading. A value may be kept or
skipped; what is skipped need only look like JSON.
-/
import VectorLint.Decimal.Nearest
import VectorLint.Entries
import VectorLint.Json.Value
import VectorLint.Text.Bytes
import VectorLint.Text.Digit

namespace VectorLint.Json

/-- Why a text cannot be read. -/
inductive Fault
  /-- The text ends too early. -/
  | ended
  /-- The text is not JSON. -/
  | malformed
  /-- The text is JSON but not of the wanted shape. -/
  | misfit
deriving DecidableEq, Repr

/-- The blanks of JSON. -/
def isSpace (c : Char) : Bool :=
  c = ' ' || c = '\n' || c = '\t' || c = '\r'

def skipSpace (s : List Char) : List Char :=
  s.dropWhile isSpace

/-- Reads the rest of a fixed word. -/
def readWord : (word s : List Char) → Except Fault (List Char)
  | [], s => .ok s
  | _ :: _, [] => .error .ended
  | a :: word, c :: s => if a = c then readWord word s else .error .malformed

/-! ## Numbers -/

/-- The digits and the rest. -/
def spanDigits (s : List Char) : List Char × List Char :=
  s.span Char.isDigit

def digitValue (c : Char) : Nat :=
  c.toNat - '0'.toNat

/-- Digits taken into a significand as long as it fits in 64 bits, and how
many digits stay outside. -/
def absorb (significand : Nat) : List Char → Nat × Nat
  | [] => (significand, 0)
  | c :: digits =>
    let next := significand * 10 + digitValue c
    if next < UInt64.size then absorb next digits else (significand, digits.length + 1)

/-- The exponent part, if there is one: `e`, a sign, digits. -/
def readExponent (s : List Char) : Except Fault (Int × List Char) :=
  let magnitude (s : List Char) (sign : Int) : Except Fault (Int × List Char) :=
    match spanDigits s with
    | ([], []) => .error .ended
    | ([], _ :: _) => .error .malformed
    | (digits, rest) => .ok (sign * digits.foldl (fun n c => n * 10 + digitValue c) 0, rest)
  match s with
  | '+' :: s => magnitude s 1
  | '-' :: s => magnitude s (-1)
  | s => magnitude s 1

/-- A number that is no integer of 64 bits. -/
def double (negative : Bool) (significand : Nat) (exponent : Int) : Except Fault Number :=
  match Decimal.scaleByTen (Decimal.nearest significand 1) exponent with
  | none => .error .malformed
  | some bits => .ok (.double (if negative then bits ||| 0x8000000000000000 else bits))

/-- Reads the exponent part, if any, and makes the number. -/
def finishDouble (negative : Bool) (significand : Nat) (exponent : Int) (s : List Char) :
    Except Fault (Number × List Char) :=
  match s with
  | 'e' :: s | 'E' :: s => do
    let (more, rest) ← readExponent s
    return (← double negative significand (exponent + more), rest)
  | s => do return (← double negative significand exponent, s)

/-- Reads a number behind its sign. -/
def readNumber (negative : Bool) (s : List Char) : Except Fault (Number × List Char) :=
  match spanDigits s with
  | ([], []) => .error .ended
  | ([], _ :: _) => .error .malformed
  | ('0' :: _ :: _, _) => .error .malformed
  | (digits, rest) =>
    let (significand, outside) := absorb 0 digits
    match rest with
    | '.' :: s =>
      match spanDigits s with
      | ([], []) => .error .ended
      | ([], _ :: _) => .error .malformed
      | (places, rest) =>
        let (all, dropped) := absorb significand places
        finishDouble negative all ((outside : Int) - (places.length - dropped : Nat)) rest
    | rest =>
      let plain :=
        match rest with
        | 'e' :: _ | 'E' :: _ => none
        | _ =>
          if outside = 0 ∧ ¬(negative ∧ significand = 0) then
            Integer.ofInt? (if negative then -significand else significand)
          else none
      match plain with
      | some i => .ok (.integer i, rest)
      | none => finishDouble negative significand outside rest

/-! ## Strings -/

/-- Four hexadecimal digits. Where fewer than four bytes are left the text has
ended. -/
def readHex4 (s : List Char) : Except Fault (Nat × List Char) :=
  if Text.byteLength (s.take 4) < 4 then .error .ended
  else
    match (s.take 4).mapM (Text.digitValue? 16) with
    | some [a, b, c, d] => .ok (((a * 16 + b) * 16 + c) * 16 + d, s.drop 4)
    | _ => .error .malformed

/-- The character of a `\u` escape, behind the `u`. Characters beyond U+FFFF
are two escapes, a high and a low surrogate; a surrogate alone is no
character. -/
def readUnicodeEscape (s : List Char) : Except Fault (Char × List Char) := do
  let (n, s) ← readHex4 s
  if 0xDC00 ≤ n ∧ n ≤ 0xDFFF then throw .malformed
  if n < 0xD800 ∨ 0xDBFF < n then return (Char.ofNat n, s)
  match s with
  | [] | ['\\'] => throw .ended
  | '\\' :: 'u' :: s =>
    let (low, s) ← readHex4 s
    if 0xDC00 ≤ low ∧ low ≤ 0xDFFF then
      return (Char.ofNat ((n - 0xD800) * 0x400 + (low - 0xDC00) + 0x10000), s)
    throw .malformed
  | _ => throw .malformed

/-- The character of an escape, behind the backslash. -/
def readEscape : List Char → Except Fault (Char × List Char)
  | [] => .error .ended
  | '"' :: s => .ok ('"', s)
  | '\\' :: s => .ok ('\\', s)
  | '/' :: s => .ok ('/', s)
  | 'b' :: s => .ok ('\x08', s)
  | 'f' :: s => .ok ('\x0c', s)
  | 'n' :: s => .ok ('\n', s)
  | 'r' :: s => .ok ('\r', s)
  | 't' :: s => .ok ('\t', s)
  | 'u' :: s => readUnicodeEscape s
  | _ => .error .malformed

/-- The escape of a skipped string: any four digits make a character. -/
def skipEscape : List Char → Except Fault (Char × List Char)
  | 'u' :: s => do
    let (_, s) ← readHex4 s
    return ('?', s)
  | s => readEscape s

/-- Reads a string behind its opening quote, with the given reading of
escapes. -/
def readStringWith (escape : List Char → Except Fault (Char × List Char)) :
    (fuel : Nat) → (done s : List Char) → Except Fault (List Char × List Char)
  | 0, _, _ => .error .ended
  | _ + 1, _, [] => .error .ended
  | fuel + 1, done, c :: s =>
    if c = '"' then .ok (done.reverse, s)
    else if c = '\\' then do
      let (c, s) ← escape s
      readStringWith escape fuel (c :: done) s
    else if c.toNat < 0x20 then .error .malformed
    else readStringWith escape fuel (c :: done) s

def readString (s : List Char) : Except Fault (String × List Char) := do
  let (chars, s) ← readStringWith readEscape (s.length + 1) [] s
  return (String.ofList chars, s)

/-! ## Arrays and objects -/

/-- What stands behind an opening bracket or an item: the next item, or the
closing bracket. -/
inductive Turn
  | item (s : List Char)
  | close (s : List Char)

/-- The turn behind `[`. -/
def firstItem (s : List Char) : Except Fault Turn :=
  match skipSpace s with
  | [] => .error .ended
  | ']' :: s => .ok (.close s)
  | s => .ok (.item s)

/-- The turn behind an item. A comma before the closing bracket is refused. -/
def nextItem (s : List Char) : Except Fault Turn :=
  match skipSpace s with
  | [] => .error .ended
  | ']' :: s => .ok (.close s)
  | ',' :: s =>
    match skipSpace s with
    | [] => .error .ended
    | ']' :: _ => .error .malformed
    | s => .ok (.item s)
  | _ => .error .malformed

/-- The turn behind an opening brace; an item starts behind the quote of its key. -/
def firstMember (s : List Char) : Except Fault Turn :=
  match skipSpace s with
  | [] => .error .ended
  | '\x7d' :: s => .ok (.close s)
  | '"' :: s => .ok (.item s)
  | _ => .error .malformed

/-- The turn behind a member. -/
def nextMember (s : List Char) : Except Fault Turn :=
  match skipSpace s with
  | [] => .error .ended
  | '\x7d' :: s => .ok (.close s)
  | ',' :: s =>
    match skipSpace s with
    | [] => .error .ended
    | '"' :: s => .ok (.item s)
    | _ => .error .malformed
  | _ => .error .malformed

/-- The colon between a key and its value. -/
def readColon (s : List Char) : Except Fault (List Char) :=
  match skipSpace s with
  | [] => .error .ended
  | ':' :: s => .ok s
  | _ => .error .malformed

mutual

/-- Reads a value; `levels` says how many arrays and objects may still be
opened inside each other. -/
def readValue : (fuel levels : Nat) → List Char → Except Fault (Value × List Char)
  | 0, _, _ => .error .ended
  | fuel + 1, levels, s =>
    match skipSpace s with
    | [] => .error .ended
    | 'n' :: s => do return (.null, ← readWord ['u', 'l', 'l'] s)
    | 't' :: s => do return (.bool true, ← readWord ['r', 'u', 'e'] s)
    | 'f' :: s => do return (.bool false, ← readWord ['a', 'l', 's', 'e'] s)
    | '"' :: s => do
      let (text, s) ← readString s
      return (.string text, s)
    | '-' :: s => do
      let (n, s) ← readNumber true s
      return (.number n, s)
    | '[' :: s =>
      match levels with
      | 0 => .error .malformed
      | levels + 1 => do
        let (items, s) ← readItems fuel levels (← firstItem s)
        return (.array items, s)
    | '\x7b' :: s =>
      match levels with
      | 0 => .error .malformed
      | levels + 1 => do
        let (members, s) ← readMembers fuel levels [] (← firstMember s)
        return (.object members, s)
    | c :: s =>
      if c.isDigit then do
        let (n, s) ← readNumber false (c :: s)
        return (.number n, s)
      else .error .malformed

def readItems : (fuel levels : Nat) → Turn → Except Fault (List Value × List Char)
  | 0, _, _ => .error .ended
  | _ + 1, _, .close s => .ok ([], s)
  | fuel + 1, levels, .item s => do
    let (v, s) ← readValue fuel levels s
    let (items, s) ← readItems fuel levels (← nextItem s)
    return (v :: items, s)

/-- Reads the members of an object into those read before. -/
def readMembers : (fuel levels : Nat) → List (String × Value) → Turn →
    Except Fault (List (String × Value) × List Char)
  | 0, _, _, _ => .error .ended
  | _ + 1, _, members, .close s => .ok (members, s)
  | fuel + 1, levels, members, .item s => do
    let (key, s) ← readString s
    let (v, s) ← readValue fuel levels (← readColon s)
    readMembers fuel levels (Entries.set key v members) (← nextMember s)

end

/-- How deep arrays and objects may nest. -/
def maxLevels : Nat := 127

/-- Nothing but blanks may follow the value of a text. -/
def readEnd (s : List Char) : Except Fault Unit :=
  match skipSpace s with
  | [] => .ok ()
  | _ => .error .malformed

/-- Enough fuel to read any value at the head of `s`. -/
def readFuel (s : List Char) : Nat :=
  2 * s.length + 2

/-- The value that a text writes. -/
def Value.read (s : List Char) (levels : Nat) : Except Fault Value := do
  let (v, rest) ← readValue (readFuel s) levels s
  readEnd rest
  return v

/-! ## Skipping -/

/-- Skips a number behind its sign; its size does not matter. -/
def skipNumber (s : List Char) : Except Fault (List Char) :=
  let exponent (s : List Char) : Except Fault (List Char) :=
    match s with
    | 'e' :: s | 'E' :: s =>
      let s := match s with
        | '+' :: s | '-' :: s => s
        | s => s
      match spanDigits s with
      | ([], _) => .error .malformed
      | (_, rest) => .ok rest
    | s => .ok s
  match spanDigits s with
  | ([], _) => .error .malformed
  | ('0' :: _ :: _, _) => .error .malformed
  | (_, '.' :: s) =>
    match spanDigits s with
    | ([], _) => .error .malformed
    | (_, rest) => exponent rest
  | (_, rest) => exponent rest

def skipString (s : List Char) : Except Fault (List Char) :=
  (readStringWith skipEscape (s.length + 1) [] s).map Prod.snd

mutual

/-- Skips a value of any depth. -/
def skipValue : (fuel : Nat) → List Char → Except Fault (List Char)
  | 0, _ => .error .ended
  | fuel + 1, s =>
    match skipSpace s with
    | [] => .error .ended
    | 'n' :: s => readWord ['u', 'l', 'l'] s
    | 't' :: s => readWord ['r', 'u', 'e'] s
    | 'f' :: s => readWord ['a', 'l', 's', 'e'] s
    | '"' :: s => skipString s
    | '-' :: s => skipNumber s
    | '[' :: s => do skipItems fuel (← firstItem s)
    | '\x7b' :: s => do skipMembers fuel (← firstMember s)
    | c :: s => if c.isDigit then skipNumber (c :: s) else .error .malformed

def skipItems : (fuel : Nat) → Turn → Except Fault (List Char)
  | 0, _ => .error .ended
  | _ + 1, .close s => .ok s
  | fuel + 1, .item s => do skipItems fuel (← nextItem (← skipValue fuel s))

def skipMembers : (fuel : Nat) → Turn → Except Fault (List Char)
  | 0, _ => .error .ended
  | _ + 1, .close s => .ok s
  | fuel + 1, .item s => do
    skipMembers fuel (← nextMember (← skipValue fuel (← readColon (← skipString s))))

end

end VectorLint.Json
