/-
The double nearest to a ratio of naturals, as its 64 bits, a ratio halfway
between two doubles going to the even one; and what follows from it:
products and quotients of doubles, and decimals read as doubles. Signs are
kept apart: every bit pattern here is of a number that is not negative.
-/
import VectorLint.Decimal.Shortest

namespace VectorLint.Decimal

/-- The bits of positive infinity. -/
def infinity : UInt64 := 0x7FF0000000000000

/-- `num * 2 ^ -q / den` rounded to an integer, halves to the even one. -/
def roundScaled (num den : Nat) (q : Int) : Nat :=
  let n := num * raise 2 (-q)
  let d := den * raise 2 q
  let quotient := n / d
  match compare (2 * (n % d)) d with
  | .lt => quotient
  | .gt => quotient + 1
  | .eq => quotient + quotient % 2

/-- The exponent of the unit in the last place of the double nearest to
`num / den`: the ratio has 53 bits above it, or it is the smallest there is. -/
def unitExponent (num den : Nat) : Int :=
  let q : Int := (num.log2 : Int) - den.log2 - 53
  let fits := num * raise 2 (-q) < 2 * leading * (den * raise 2 q)
  max (if fits then q else q + 1) (-1074)

/-- The double nearest to `num / den`, for a positive `den`. -/
def nearest (num den : Nat) : UInt64 :=
  if num = 0 then 0
  else
    let q := unitExponent num den
    let mantissa := roundScaled num den q
    let bits :=
      if mantissa < leading then mantissa
      else (q + 1075).toNat * leading + (mantissa - leading)
    if bits < infinity.toNat then bits.toUInt64 else infinity

/-- The double nearest to the product of two finite doubles. -/
def product (a b : UInt64) : UInt64 :=
  let x := Binary.ofBits a
  let y := Binary.ofBits b
  let e := x.exponent + y.exponent
  nearest (x.mantissa * y.mantissa * raise 2 e) (raise 2 (-e))

/-- The double nearest to the quotient of two finite doubles, the second not
zero. -/
def quotient (a b : UInt64) : UInt64 :=
  let x := Binary.ofBits a
  let y := Binary.ofBits b
  let e := x.exponent - y.exponent
  nearest (x.mantissa * raise 2 e) (y.mantissa * raise 2 (-e))

/-- The double nearest to `digits * 10 ^ exponent`. Exponents far out of
range need no powers. -/
def nearestDecimal (digits : Nat) (exponent : Int) : UInt64 :=
  if digits = 0 ∨ exponent + digits.log2 < -400 then 0
  else if exponent > 400 then infinity
  else nearest (digits * raise 10 exponent) (raise 10 (-exponent))

/-- A double times a power of ten, in one rounded step for each power up to
1e308; nothing if the result is out of range. The last digit may differ from
the nearest double's. -/
def scaleByTen (x : UInt64) (exponent : Int) : Option UInt64 :=
  if x = 0 then some 0
  else if exponent < -308 then scaleByTen (quotient x (nearestDecimal 1 308)) (exponent + 308)
  else if exponent < 0 then some (quotient x (nearestDecimal 1 (-exponent)))
  else if exponent ≤ 308 then
    let y := product x (nearestDecimal 1 exponent)
    if y = infinity then none else some y
  else none
termination_by (-exponent).toNat

end VectorLint.Decimal
