/-
What the scalars of YAML mean: a plain scalar is null, a boolean or a number
if it is written like one; any other is its text.
-/
import VectorLint.Decimal.Nearest
import VectorLint.Json.Value
import VectorLint.Text.Digit
import VectorLint.Text.Split
import VectorLint.Yaml.Tag

namespace VectorLint.Yaml

def isNull (s : List Char) : Bool :=
  ["null", "Null", "NULL", "~"].contains (String.ofList s)

def readBool (s : List Char) : Option Bool :=
  match String.ofList s with
  | "true" | "True" | "TRUE" => some true
  | "false" | "False" | "FALSE" => some false
  | _ => none

def dropSign (s : List Char) : List Char :=
  match s with
  | '+' :: s | '-' :: s => s
  | s => s

/-- Digits that begin with a zero are text, not a number. -/
def isPadded (s : List Char) : Bool :=
  match dropSign s with
  | '0' :: c :: digits => (c :: digits).all Char.isDigit
  | _ => false

/-- The number that digits write behind an optional letter that says in which
radix. -/
def readMagnitude (s : List Char) : Option Nat :=
  match s with
  | '0' :: 'x' :: digits => Text.number? 16 digits
  | '0' :: 'o' :: digits => Text.number? 8 digits
  | '0' :: 'b' :: digits => Text.number? 2 digits
  | digits => if isPadded digits then none else Text.number? 10 digits

def readInteger (s : List Char) : Option Int :=
  match s with
  | '-' :: s => (readMagnitude s).map fun n => -(n : Int)
  | '+' :: s => (readMagnitude s).map Int.ofNat
  | s => (readMagnitude s).map Int.ofNat

/-- Integers of 128 bits, signed or unsigned. -/
def isRepresentable (i : Int) : Bool :=
  -0x80000000000000000000000000000000 ≤ i && i < 0x100000000000000000000000000000000

/-- The exponent part of a decimal, which is the whole text. -/
def readExponent (s : List Char) : Option Int :=
  match s with
  | [] => some 0
  | e :: s =>
    if e = 'e' ∨ e = 'E' then
      match s with
      | '-' :: digits => (Text.number? 10 digits).map fun n => -(n : Int)
      | '+' :: digits => (Text.number? 10 digits).map Int.ofNat
      | digits => (Text.number? 10 digits).map Int.ofNat
    else none

/-- The bits of the double that a decimal without sign writes; it has a digit
before or behind its point, and it is finite. -/
def readDecimal (s : List Char) : Option UInt64 := do
  let (whole, rest) := s.span Char.isDigit
  let (places, rest) :=
    match rest with
    | '.' :: rest => rest.span Char.isDigit
    | rest => ([], rest)
  let significand ← Text.number? 10 (whole ++ places)
  let exponent ← readExponent rest
  let bits := Decimal.nearestDecimal significand (exponent - places.length)
  if bits < Decimal.infinity then some bits else none

/-- A float: a finite double, or nothing where the text writes infinity or no
number. -/
inductive FloatReading
  | finite (bits : UInt64)
  | special

def readFloat (s : List Char) : Option FloatReading :=
  let specials := [".inf", ".Inf", ".INF", "+.inf", "+.Inf", "+.INF", "-.inf", "-.Inf", "-.INF",
    ".nan", ".NaN", ".NAN"]
  if specials.contains (String.ofList s) then some .special
  else
    match s with
    | '-' :: s => (readDecimal s).map fun bits => .finite (bits ||| 0x8000000000000000)
    | '+' :: s => (readDecimal s).map .finite
    | s => (readDecimal s).map .finite

namespace FloatReading

/-- JSON has no number for infinities and for what is not a number. -/
def value : FloatReading → Json.Value
  | .finite bits => .number (.double bits)
  | .special => .null

end FloatReading

/-- The value of an integer; it has to fit in 64 bits. -/
def integerValue (i : Int) : Option Json.Value :=
  (Json.Integer.ofInt? i).map fun i => .number (.integer i)

/-- The value of a plain scalar. An integer too wide for 64 bits is refused
as long as 128 bits would do, and is a float beyond that. -/
def plainValue (s : List Char) : Option Json.Value :=
  if s.isEmpty || isNull s then some .null
  else match readBool s with
    | some b => some (.bool b)
    | none =>
      match (readInteger s).filter isRepresentable with
      | some i => integerValue i
      | none =>
        if isPadded s then some (.string (String.ofList s))
        else match readFloat s with
          | some float => some float.value
          | none => some (.string (String.ofList s))

/-- The tags of the types that a scalar may be given by. -/
inductive CoreTag
  | bool
  | int
  | float
  | null
deriving DecidableEq, Repr

def coreTag? (t : TagText) : Option CoreTag :=
  let named (name : String) := t == ("tag:yaml.org,2002:" ++ name).toUTF8.toList
  if named "bool" then some .bool
  else if named "int" then some .int
  else if named "float" then some .float
  else if named "null" then some .null
  else none

/-- Tags that begin with an exclamation mark are local. -/
def isLocal (t : TagText) : Bool :=
  t.head? = some 0x21

/-- Whether a local tag names a variant: its text has to be one. -/
def namesVariant (t : TagText) : Bool :=
  isLocal t && ((ByteArray.mk t.toArray).validateUTF8)

/-- The value of a scalar. A tag of a type demands a text of that type; a tag
that names a variant has no value. -/
def scalarValue (tag : Option TagText) (plain : Bool) (text : String) : Option Json.Value :=
  let s := text.toList
  match tag with
  | none => if plain then plainValue s else some (.string text)
  | some t =>
    if namesVariant t then none
    else match coreTag? t with
      | some .bool => (readBool s).map .bool
      | some .int => do integerValue (← (readInteger s).filter isRepresentable)
      | some .float => (readFloat s).map FloatReading.value
      | some .null => if isNull s then some .null else none
      | none => if plain && isLocal t then plainValue s else some (.string text)

end VectorLint.Yaml
