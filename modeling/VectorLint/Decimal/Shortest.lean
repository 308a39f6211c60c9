/-
The shortest decimal of a binary floating-point number: of the decimals with
the fewest digits that read back as the number, the one nearest to it. All
arithmetic is on naturals; a number is `mantissa * 2 ^ exponent`.
-/
namespace VectorLint.Decimal

/-- A positive number as an integer times a power of two. -/
structure Binary where
  mantissa : Nat
  exponent : Int
  /-- Whether the next smaller number is only half as far as the next larger. -/
  narrowBelow : Bool
deriving DecidableEq, Repr

/-- A positive number as an integer times a power of ten. -/
structure Digits where
  digits : Nat
  exponent : Int
deriving DecidableEq, Repr

/-- `base ^ e`, and one for a negative `e`: the numerator of a power of `base`,
as `raise base (-e)` is its denominator. -/
def raise (base : Nat) (e : Int) : Nat :=
  base.pow e.toNat

/-- The leading bit of a mantissa of 53 bits. -/
def leading : Nat := 0x10000000000000

/-- The magnitude in the 64 bits of a double that is finite and not zero. -/
def Binary.ofBits (bits : UInt64) : Binary :=
  let fraction := (bits &&& 0xFFFFFFFFFFFFF).toNat
  let field := ((bits >>> 52) &&& 0x7FF).toNat
  if field = 0 then ⟨fraction, -1074, false⟩
  else ⟨fraction + leading, (field : Int) - 1075, fraction = 0 && field > 1⟩

/-- How `a * 2 ^ p` compares with a decimal. -/
def compareScaled (a : Nat) (p : Int) (d : Digits) : Ordering :=
  compare (a * raise 2 p * raise 10 (-d.exponent))
    (d.digits * raise 10 d.exponent * raise 2 (-p))

/-- Whether `d` reads back as `x`: it lies between the midpoints to the two
neighbours of `x`, ends included where the mantissa is even. -/
def readsBack (x : Binary) (d : Digits) : Bool :=
  let low := compareScaled (4 * x.mantissa - (if x.narrowBelow then 1 else 2)) (x.exponent - 2) d
  let high := compareScaled (4 * x.mantissa + 2) (x.exponent - 2) d
  if x.mantissa % 2 = 0 then low.isLE && high.isGE else low.isLT && high.isGT

/-- The largest decimal of the grid `10 ^ exponent` that is not above `x`. -/
def floorOn (x : Binary) (exponent : Int) : Nat :=
  (x.mantissa * raise 2 x.exponent * raise 10 (-exponent)) /
    (raise 2 (-x.exponent) * raise 10 exponent)

/-- The number of decimal digits of the integer part of `x`, or minus the
number of zeros that follow the point. -/
def magnitude (x : Binary) : Int :=
  let whole := floorOn x 0
  if whole = 0 then
    -- the digits of `x` on a grid finer than every double
    ((Nat.repr (floorOn x (-400))).length : Int) - 400
  else (Nat.repr whole).length

/-- Of the two neighbours of `x` on a grid, the one that reads back; of two
that do, the nearer one, and the even one in the middle. -/
def closestOn (x : Binary) (exponent : Int) : Option Digits :=
  let below := floorOn x exponent
  let down : Digits := ⟨below, exponent⟩
  let up : Digits := ⟨below + 1, exponent⟩
  match readsBack x down, readsBack x up with
  | true, true =>
    match compareScaled (2 * x.mantissa) x.exponent ⟨2 * below + 1, exponent⟩ with
    | .lt => some down
    | .gt => some up
    | .eq => if below % 2 = 0 then some down else some up
  | true, false => some down
  | false, true => some up
  | false, false => none

/-- The first grid, from `count` digits on, that has a decimal for `x`. -/
def search (x : Binary) (magnitude : Int) : (tries count : Nat) → Digits
  | 0, count => ⟨floorOn x (magnitude - count), magnitude - count⟩
  | tries + 1, count =>
    match closestOn x (magnitude - count) with
    | some d => d
    | none => search x magnitude tries (count + 1)

/-- Moves trailing zeros of the digits into the exponent. -/
def Digits.normal : (fuel : Nat) → Digits → Digits
  | 0, d => d
  | fuel + 1, d =>
    if d.digits ≠ 0 ∧ d.digits % 10 = 0 then normal fuel ⟨d.digits / 10, d.exponent + 1⟩ else d

/-- The shortest decimal of `x`; seventeen digits always suffice. -/
def shortest (x : Binary) : Digits :=
  (search x (magnitude x) 17 1).normal 20

end VectorLint.Decimal
