import CuckooFilter.Text.Decimal

/-!
# Binary floating-point numbers, exactly

A 64-bit pattern denotes plus or minus `mantissa * 2 ^ exponent`, an infinity, or no number. All
work on them is integer arithmetic: `decode` reads a pattern, `widen` takes a 32-bit pattern to the
64-bit pattern of the same value, `nearest` rounds a quotient of naturals to 53 bits, ties to even,
and `toFixed` writes the exact value with a fixed number of places.
-/

namespace CuckooFilter

/-- What a floating-point pattern denotes. -/
inductive FloatValue
  | finite (negative : Bool) (mantissa : Nat) (exponent : Int)
  | infinite (negative : Bool)
  | nan
  deriving DecidableEq

namespace Binary64

/-- The value of a 64-bit pattern. -/
def decode (bits : UInt64) : FloatValue :=
  let negative := bits.toNat.testBit 63
  let exponent : Nat := bits.toNat >>> 52 % 2048
  let fraction : Nat := bits.toNat % 1 <<< 52
  if exponent = 2047 then
    if fraction = 0 then .infinite negative else .nan
  else if exponent = 0 then .finite negative fraction (-1074)
  else .finite negative (1 <<< 52 + fraction) ((exponent : Int) - 1075)

/-- The 64-bit pattern of the value that a 32-bit pattern denotes. -/
def widen (bits : UInt32) : UInt64 :=
  let sign := bits.toNat >>> 31
  let exponent := bits.toNat >>> 23 % 256
  let fraction := bits.toNat % 1 <<< 23
  let magnitude :=
    if exponent = 255 then 2047 <<< 52 + fraction <<< 29
    else if exponent = 0 then
      if fraction = 0 then 0
      else (fraction.log2 + 874) <<< 52 + (fraction - 1 <<< fraction.log2) <<< (52 - fraction.log2)
    else (exponent + 896) <<< 52 + fraction <<< 29
  UInt64.ofNat (sign <<< 63 + magnitude)

/-- The fraction `num / (den * 2 ^ exponent)` as a numerator and a denominator. -/
def scale (num den : Nat) (exponent : Int) : Nat × Nat :=
  if 0 ≤ exponent then (num, den <<< exponent.toNat) else (num <<< (-exponent).toNat, den)

/-- The value of 53 bits nearest to `num / den`, ties to even. Dividing by zero gives infinity, or
no number for zero by zero. -/
def nearest (num den : Nat) : FloatValue :=
  if den = 0 then if num = 0 then .nan else .infinite false
  else if num = 0 then .finite false 0 0
  else
    let guess : Int := (num.log2 : Int) - den.log2 - 52
    let scaled := scale num den guess
    let exponent := if scaled.1 / scaled.2 < 1 <<< 52 then guess - 1 else guess
    let scaled := scale num den exponent
    .finite false (Decimal.roundHalfEven scaled.1 scaled.2) exponent

/-- The natural nearest to `n` that has at most 53 significant bits, ties to even. -/
def roundNat (n : Nat) : Nat :=
  let excess := n.log2 - 52
  Decimal.roundHalfEven n (1 <<< excess) <<< excess

/-- The quotient of two naturals, each rounded to 53 bits first. -/
def quotient (num den : Nat) : FloatValue :=
  nearest (roundNat num) (roundNat den)

/-- The pattern of a value in the normal range, of an infinity or of no number. -/
def encode : FloatValue → UInt64
  | .finite negative mantissa exponent =>
    let sign := if negative then 1 <<< 63 else 0
    if mantissa = 0 then UInt64.ofNat sign
    else
      let biased := (exponent + mantissa.log2 + 1023).toNat
      let fraction := mantissa <<< 52 >>> mantissa.log2 - 1 <<< 52
      UInt64.ofNat (sign + biased <<< 52 + fraction)
  | .infinite negative => UInt64.ofNat ((if negative then 1 <<< 63 else 0) + 2047 <<< 52)
  | .nan => 0x7ff8000000000000

end Binary64

namespace FloatValue

/-- The integer that a value is, if it is one. -/
def integer? : FloatValue → Option Int
  | .finite negative mantissa exponent =>
    let sign : Int := if negative then -1 else 1
    let divisor := 1 <<< (-exponent).toNat
    if 0 ≤ exponent then some (sign * (mantissa <<< exponent.toNat : Nat))
    else if mantissa % divisor = 0 then some (sign * (mantissa / divisor : Nat))
    else none
  | .infinite _ | .nan => none

/-- The value with `places` digits after the point. -/
def toFixed (places : Nat) : FloatValue → String
  | .finite negative mantissa exponent =>
    (if negative then "-" else "") ++
      if 0 ≤ exponent then Decimal.fixed places (mantissa <<< exponent.toNat) 1
      else Decimal.fixed places mantissa (1 <<< (-exponent).toNat)
  | .infinite negative => if negative then "-inf" else "inf"
  | .nan => "NaN"

end FloatValue

end CuckooFilter
