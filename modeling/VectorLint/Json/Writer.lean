/-
How a JSON value is written: compact, without any blank, or pretty, with two
blanks of indentation for each level.
-/
import VectorLint.Decimal.Shortest
import VectorLint.Json.Value

namespace VectorLint.Json

/-- How a double is written. -/
structure DoubleFormat where
  /-- The decimal exponents of the first digit that are written positionally. -/
  positionalFrom : Int
  positionalTo : Int

/-- A double is positional from 1e-5 up to, not including, 1e16. -/
def doubleFormat : DoubleFormat := ⟨-5, 15⟩

/-- The digits of a decimal, its point placed or its exponent added. A number
is never written as an integer: it keeps a `.0` or an exponent. -/
def DoubleFormat.write (format : DoubleFormat) (d : Decimal.Digits) : List Char :=
  let digits := d.digits.repr.toList
  let lead : Int := d.exponent + digits.length - 1
  if format.positionalFrom ≤ lead ∧ lead ≤ format.positionalTo then
    if 0 ≤ d.exponent then digits ++ List.replicate d.exponent.toNat '0' ++ ['.', '0']
    else if 0 ≤ lead then digits.take (lead + 1).toNat ++ '.' :: digits.drop (lead + 1).toNat
    else '0' :: '.' :: List.replicate (-lead - 1).toNat '0' ++ digits
  else
    let fraction := match digits.drop 1 with
      | [] => []
      | rest => '.' :: rest
    digits.take 1 ++ fraction ++
      (if 0 ≤ lead then 'e' :: '+' :: lead.toNat.repr.toList
        else 'e' :: '-' :: (-lead).toNat.repr.toList)

def Integer.chars (i : Integer) : List Char :=
  if 0 ≤ i.val then i.val.toNat.repr.toList else '-' :: (-i.val).toNat.repr.toList

/-- The text of a double; one that is not finite has none, and is `null`. -/
def doubleChars (bits : UInt64) : List Char :=
  if (bits >>> 52) &&& 0x7FF = 0x7FF then ['n', 'u', 'l', 'l']
  else
    let sign := if bits >>> 63 = 1 then ['-'] else []
    if bits <<< 1 = 0 then sign ++ ['0', '.', '0']
    else sign ++ doubleFormat.write (Decimal.shortest (Decimal.Binary.ofBits bits))

def Number.chars : Number → List Char
  | .integer i => i.chars
  | .double bits => doubleChars bits

def hexDigit (n : Nat) : Char :=
  Nat.digitChar n

/-- A character inside a quoted string. Only the quote, the backslash and the
characters below U+0020 are escaped. -/
def escape (c : Char) : List Char :=
  if c = '"' then ['\\', '"']
  else if c = '\\' then ['\\', '\\']
  else if c = '\x08' then ['\\', 'b']
  else if c = '\x0c' then ['\\', 'f']
  else if c = '\n' then ['\\', 'n']
  else if c = '\r' then ['\\', 'r']
  else if c = '\t' then ['\\', 't']
  else if c.toNat < 0x20 then
    ['\\', 'u', '0', '0', hexDigit (c.toNat / 16), hexDigit (c.toNat % 16)]
  else [c]

def quote (s : String) : List Char :=
  '"' :: s.toList.flatMap escape ++ ['"']

mutual

/-- The compact text of a value. -/
def Value.compactChars : Value → List Char
  | .null => ['n', 'u', 'l', 'l']
  | .bool true => ['t', 'r', 'u', 'e']
  | .bool false => ['f', 'a', 'l', 's', 'e']
  | .number n => n.chars
  | .string s => quote s
  | .array [] => ['[', ']']
  | .array (v :: items) => '[' :: v.compactChars ++ compactItems items
  | .object [] => ['\x7b', '\x7d']
  | .object ((key, v) :: members) =>
    '\x7b' :: quote key ++ ':' :: v.compactChars ++ compactMembers members

def compactItems : List Value → List Char
  | [] => [']']
  | v :: items => ',' :: v.compactChars ++ compactItems items

def compactMembers : List (String × Value) → List Char
  | [] => ['\x7d']
  | (key, v) :: members => ',' :: quote key ++ ':' :: v.compactChars ++ compactMembers members

end

def Value.compact (v : Value) : String :=
  String.ofList v.compactChars

/-- A line break and the indentation of a level. -/
def newline (level : Nat) : List Char :=
  '\n' :: List.replicate (2 * level) ' '

mutual

/-- The pretty text of a value that stands at the given level. Empty arrays
and objects stay on their line. -/
def Value.prettyChars (level : Nat) : Value → List Char
  | .null => ['n', 'u', 'l', 'l']
  | .bool true => ['t', 'r', 'u', 'e']
  | .bool false => ['f', 'a', 'l', 's', 'e']
  | .number n => n.chars
  | .string s => quote s
  | .array [] => ['[', ']']
  | .array (v :: items) =>
    '[' :: newline (level + 1) ++ v.prettyChars (level + 1) ++ prettyItems level items
  | .object [] => ['\x7b', '\x7d']
  | .object ((key, v) :: members) =>
    '\x7b' :: newline (level + 1) ++ quote key ++ ':' :: ' ' :: v.prettyChars (level + 1) ++
      prettyMembers level members

def prettyItems (level : Nat) : List Value → List Char
  | [] => newline level ++ [']']
  | v :: items =>
    ',' :: newline (level + 1) ++ v.prettyChars (level + 1) ++ prettyItems level items

def prettyMembers (level : Nat) : List (String × Value) → List Char
  | [] => newline level ++ ['\x7d']
  | (key, v) :: members =>
    ',' :: newline (level + 1) ++ quote key ++ ':' :: ' ' :: v.prettyChars (level + 1) ++
      prettyMembers level members

end

def Value.pretty (v : Value) : String :=
  String.ofList (v.prettyChars 0)

end VectorLint.Json
