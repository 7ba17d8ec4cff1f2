/-!
# Binary floating-point formats, exactly

A finite floating-point number is a magnitude `significand * 2 ^ exponent` with
a sign. This module decodes the bit patterns of the two interchange formats the
station uses (`binary64` for angles and seconds, `binary32` for metres and
rates) into such magnitudes, and rounds an exact quotient to the nearest
pattern.

Everything runs over `Nat` and `Int`. The bit patterns of a format are ordered
like the numbers they stand for, so rounding needs no case distinction between
subnormal, normal and overflowing results: the pattern is the significand plus
the exponent's offset in steps of `2 ^ (precision - 1)`, and a significand that
rounds up to the next power of two carries into the exponent by itself.
-/

namespace GroundStation

/-- The integer nearest to `num / den`, a half going to the even neighbour. -/
def roundHalfEven (num den : Nat) : Nat :=
  let quotient := num / den
  let remainder := num % den
  if 2 * remainder < den then quotient
  else if den < 2 * remainder then quotient + 1
  else quotient + quotient % 2

/-- A binary interchange format: the number of significant bits, the width of
the exponent field, and the exponent of the least positive number. -/
structure BinaryFormat where
  precision : Nat
  exponentBits : Nat
  leastExponent : Int

/-- The format of latitudes, longitudes, tolerances and seconds. -/
def binary64 : BinaryFormat := ⟨53, 11, -1074⟩

/-- The format of altitudes, speeds, rates and inertial readings. -/
def binary32 : BinaryFormat := ⟨24, 8, -149⟩

/-- What a floating-point number stands for. -/
inductive FloatValue where
  | nan
  | infinite (negative : Bool)
  | finite (negative : Bool) (significand : Nat) (exponent : Int)
deriving DecidableEq, Repr

namespace BinaryFormat

/-- The distance in bit patterns between two neighbouring exponents. -/
def binade (f : BinaryFormat) : Nat := Nat.pow 2 (f.precision - 1)

/-- The bit pattern of positive infinity, one above the largest finite one. -/
def infinity (f : BinaryFormat) : Nat := (Nat.pow 2 f.exponentBits - 1) * f.binade

/-- The value of a bit pattern; the sign is the bit above the exponent field. -/
def valueOf (f : BinaryFormat) (bits : Nat) : FloatValue :=
  let signWeight := Nat.pow 2 f.exponentBits * f.binade
  let negative := signWeight ≤ bits
  let unsigned := bits % signWeight
  if f.infinity < unsigned then .nan
  else if unsigned = f.infinity then .infinite negative
  else
    let field := unsigned / f.binade
    let fraction := unsigned % f.binade
    if field = 0 then .finite negative fraction f.leastExponent
    else .finite negative (f.binade + fraction) (f.leastExponent + field - 1)

/-- The largest `e` with `2 ^ e ≤ num / den`, for positive `num` and `den`. -/
def floorLog2 (num den : Nat) : Int :=
  let estimate : Int := (num.log2 : Int) - den.log2
  if den * Nat.pow 2 estimate.toNat ≤ num * Nat.pow 2 (-estimate).toNat then estimate
  else estimate - 1

/-- The exponent in which `num / den` is rounded to the format's precision. -/
def roundingExponent (f : BinaryFormat) (num den : Nat) : Int :=
  max f.leastExponent (floorLog2 num den - (f.precision - 1 : Nat))

/-- The significand nearest to `num / den` in units of `2 ^ exponent`, a half going
to the even neighbour. -/
def roundAt (num den : Nat) (exponent : Int) : Nat :=
  roundHalfEven (num * Nat.pow 2 (-exponent).toNat) (den * Nat.pow 2 exponent.toNat)

/-- The bit pattern of the number nearest to `num / den`; beyond the largest number
it is infinity. -/
def nearest (f : BinaryFormat) (num den : Nat) : Nat :=
  if num = 0 then 0
  else
    let exponent := f.roundingExponent num den
    min f.infinity
      ((exponent - f.leastExponent).toNat * f.binade + roundAt num den exponent)

/-- The pattern nearest to `significand * 2 ^ exponent`. -/
def nearestScaled (f : BinaryFormat) (significand : Nat) (exponent : Int) : Nat :=
  f.nearest (significand * Nat.pow 2 exponent.toNat) (Nat.pow 2 (-exponent).toNat)

end BinaryFormat

/-! ## Fractions rounded to a format -/

/-- A nonnegative fraction; its denominator is positive. -/
structure Fraction where
  num : Nat
  den : Nat
deriving DecidableEq, Repr

namespace Fraction

/-- `significand * 2 ^ exponent` as a fraction. -/
def scaled (significand : Nat) (exponent : Int) : Fraction :=
  ⟨significand * Nat.pow 2 exponent.toNat, Nat.pow 2 (-exponent).toNat⟩

/-- The sum of two fractions. -/
def add (x y : Fraction) : Fraction := ⟨x.num * y.den + y.num * x.den, x.den * y.den⟩

/-- The product of two fractions. -/
def mul (x y : Fraction) : Fraction := ⟨x.num * y.num, x.den * y.den⟩

/-- The nearest number of the format, which here has no largest number. -/
def roundTo (x : Fraction) (f : BinaryFormat) : Fraction :=
  if x.num = 0 then ⟨0, 1⟩
  else
    let exponent := f.roundingExponent x.num x.den
    scaled (BinaryFormat.roundAt x.num x.den exponent) exponent

end Fraction

/-! ## The two formats and the machine's numbers -/

/-- The value of a double-precision number. -/
def doubleValue (x : Float) : FloatValue := binary64.valueOf x.toBits.toNat

/-- The value of a single-precision number. -/
def singleValue (x : Float32) : FloatValue := binary32.valueOf x.toBits.toNat

/-- The double-precision number with this sign and unsigned bit pattern. -/
def doubleOfPattern (negative : Bool) (pattern : Nat) : Float :=
  Float.ofBits (UInt64.ofNat (if negative then Nat.pow 2 63 + pattern else pattern))

/-- The single-precision number with this sign and unsigned bit pattern. -/
def singleOfPattern (negative : Bool) (pattern : Nat) : Float32 :=
  Float32.ofBits (UInt32.ofNat (if negative then Nat.pow 2 31 + pattern else pattern))

/-- Not a number, in double precision. -/
def doubleNaN : Float := doubleOfPattern false (binary64.infinity + Nat.pow 2 51)

/-- Not a number, in single precision. -/
def singleNaN : Float32 := singleOfPattern false (binary32.infinity + Nat.pow 2 22)

/-- The double-precision number a value rounds to. -/
def FloatValue.toDouble : FloatValue → Float
  | .nan => doubleNaN
  | .infinite negative => doubleOfPattern negative binary64.infinity
  | .finite negative m q => doubleOfPattern negative (binary64.nearestScaled m q)

/-- The single-precision number a value rounds to. -/
def FloatValue.toSingle : FloatValue → Float32
  | .nan => singleNaN
  | .infinite negative => singleOfPattern negative binary32.infinity
  | .finite negative m q => singleOfPattern negative (binary32.nearestScaled m q)

/-- Rounds a double-precision number to single precision. -/
def narrow (x : Float) : Float32 := (doubleValue x).toSingle

/-- An integer as a value without rounding. -/
def FloatValue.ofInt (n : Int) : FloatValue := .finite (n < 0) n.natAbs 0

/-- The double-precision number nearest to an integer. -/
def doubleOfInt (n : Int) : Float := (FloatValue.ofInt n).toDouble

/-- The single-precision number nearest to an integer. -/
def singleOfInt (n : Int) : Float32 := (FloatValue.ofInt n).toSingle

end GroundStation
