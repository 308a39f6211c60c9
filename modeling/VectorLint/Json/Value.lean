/-
JSON values. An object keeps its members in order, and an integer that fits
in 64 bits stays exact; any other number is a double.
-/
namespace VectorLint.Json

/-- An integer that is kept exact: it fits in 64 bits, signed or unsigned. -/
structure Integer where
  val : Int
  low : -0x8000000000000000 ≤ val
  high : val < 0x10000000000000000
deriving DecidableEq

namespace Integer

def ofInt? (i : Int) : Option Integer :=
  if h : -0x8000000000000000 ≤ i ∧ i < 0x10000000000000000 then some ⟨i, h.1, h.2⟩ else none

/-- The integer as a count, if it is not negative. -/
def toNat? (i : Integer) : Option Nat :=
  if 0 ≤ i.val then some i.val.toNat else none

theorem ofInt?_val (i : Integer) : ofInt? i.val = some i :=
  dif_pos ⟨i.low, i.high⟩

end Integer

/-- A number; a double is given by its 64 bits. -/
inductive Number
  | integer (i : Integer)
  | double (bits : UInt64)
deriving DecidableEq

inductive Value
  | null
  | bool (b : Bool)
  | number (n : Number)
  | string (s : String)
  | array (items : List Value)
  | object (members : List (String × Value))

namespace Value

def asString? : Value → Option String
  | .string s => some s
  | _ => none

def asBool? : Value → Option Bool
  | .bool b => some b
  | _ => none

/-- A count: an integer that is not negative. -/
def asNat? : Value → Option Nat
  | .number (.integer i) => i.toNat?
  | _ => none

/-- The number of a count. One that does not fit in 64 bits is null. -/
def ofNat (n : Nat) : Value :=
  (Integer.ofInt? n).elim .null fun i => .number (.integer i)

/-- The member of an object that a key names. -/
def get? (key : String) : Value → Option Value
  | .object members => members.lookup key
  | _ => none

end Value

end VectorLint.Json
