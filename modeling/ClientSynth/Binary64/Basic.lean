/-!
# Double-precision numbers

A `Binary64` is the 64 bits of a double. Its magnitude is `significand * 2 ^ exponent`, in whole
numbers, so that reading, printing and comparing need no machine arithmetic; only `add` and `mul`
use it. `ofRatio` gives the double nearest to a quotient, ties to even.
-/

namespace ClientSynth

/-- A double, by its bits. -/
structure Binary64 where
  bits : UInt64
  deriving DecidableEq, Inhabited

namespace Binary64

/-- A power of two. -/
abbrev twoPow (k : Nat) : Nat := Nat.pow 2 k

/-- A power of ten. -/
abbrev tenPow (k : Nat) : Nat := Nat.pow 10 k

/-- Whether the sign bit is set. -/
def isNegative (x : Binary64) : Bool :=
  x.bits.toNat / twoPow 63 == 1

/-- The bits below the sign. -/
def magnitudeBits (x : Binary64) : Nat :=
  x.bits.toNat % twoPow 63

/-- The biased exponent. -/
def biased (x : Binary64) : Nat :=
  x.magnitudeBits / twoPow 52

/-- The bits of the fraction. -/
def fraction (x : Binary64) : Nat :=
  x.magnitudeBits % twoPow 52

/-- Whether the double is neither infinite nor a NaN. -/
def isFinite (x : Binary64) : Bool :=
  x.biased < 2047

/-- Whether the double is not a number. -/
def isNaN (x : Binary64) : Bool :=
  x.biased == 2047 && x.fraction != 0

/-- Whether the double is positive or negative zero. -/
def isZero (x : Binary64) : Bool :=
  x.magnitudeBits == 0

/-- The whole number that a finite magnitude is a multiple of a power of two of. -/
def significand (x : Binary64) : Nat :=
  if x.biased = 0 then x.fraction else twoPow 52 + x.fraction

/-- The exponent of that power of two, above the least one, `-1074`. -/
def scale (x : Binary64) : Nat :=
  x.biased - 1

/-- The double with a sign and the bits below it. -/
def ofMagnitudeBits (negative : Bool) (bits : Nat) : Binary64 :=
  ⟨UInt64.ofNat (if negative then twoPow 63 + bits else bits)⟩

/-- An infinity. -/
def infinity (negative : Bool) : Binary64 :=
  ofMagnitudeBits negative (2047 * twoPow 52)

/-- The quiet NaN with no payload. -/
def nan : Binary64 :=
  ofMagnitudeBits false (2047 * twoPow 52 + twoPow 51)

/-- One of the other quiet NaNs, by its payload. -/
def nanOf (payload : Nat) : Binary64 :=
  ofMagnitudeBits false (2047 * twoPow 52 + twoPow 51 + (payload + 1) % twoPow 51)

/-- The whole number nearest to a quotient, a half going to the even neighbour. -/
def roundQuotient (num den : Nat) : Nat :=
  let whole := num / den
  let rest := num % den
  if 2 * rest < den then whole
  else if 2 * rest = den then whole + whole % 2
  else whole + 1

/-- The bits of the magnitude nearest to `num / den`: the power of two is the one that leaves 53
bits, but no less than `2 ^ -1074`, and a magnitude that is too large is infinite. -/
def nearestBits (num den : Nat) : Nat :=
  -- `level` is the exponent of the last place, above `-1074`.
  let bound := (Nat.log2 num : Int) - Nat.log2 den - 53 + 1074
  let level := bound.toNat
  let quotient := fun (level : Nat) => roundQuotient (num * twoPow 1074) (den * twoPow level)
  -- The quotient at `level` has 53 or 54 bits, or fewer when `level` is zero.
  let level :=
    if num * twoPow 1074 < den * twoPow level * twoPow 53 then level else level + 1
  let bits := level * twoPow 52 + quotient level
  if bits < 2047 * twoPow 52 then bits else 2047 * twoPow 52

/-- The double nearest to a quotient of natural numbers, with a sign. -/
def ofRatio (negative : Bool) (num den : Nat) : Binary64 :=
  if num = 0 then ofMagnitudeBits negative 0
  else ofMagnitudeBits negative (nearestBits num den)

/-- The double nearest to an integer. -/
def ofInt (n : Int) : Binary64 :=
  ofRatio (n < 0) n.natAbs 1

/-- The double nearest to `digits * 10 ^ exponent`. Magnitudes far outside the range of doubles are
settled without their powers of ten. -/
def ofDecimal (negative : Bool) (digits : Nat) (exponent : Int) : Binary64 :=
  if digits = 0 then ofMagnitudeBits negative 0
  else
    let length : Int := (Nat.toDigits 10 digits).length
    if length + exponent > 400 then infinity negative
    else if length + exponent < -400 then ofMagnitudeBits negative 0
    else if exponent ≥ 0 then ofRatio negative (digits * tenPow exponent.toNat) 1
    else ofRatio negative digits (tenPow (-exponent).toNat)

/-- A whole number that is ordered as the double is among numbers other than NaN. -/
def orderKey (x : Binary64) : Int :=
  if x.isNegative then -(x.magnitudeBits : Int) else x.magnitudeBits

/-- Whether one double is greater than another; a NaN is greater than none and none than it. -/
def isGreater (x y : Binary64) : Bool :=
  !x.isNaN && !y.isNaN && y.orderKey < x.orderKey

/-- Whether two doubles are equal as numbers: the zeros are, and a NaN is equal to none. -/
def isSame (x y : Binary64) : Bool :=
  !x.isNaN && !y.isNaN && x.orderKey == y.orderKey

/-- The integer that a finite double is, if it has no fractional part. -/
def toInt? (x : Binary64) : Option Int :=
  let scaled := x.significand * twoPow x.scale
  if x.isFinite && scaled % twoPow 1074 = 0 then
    let whole : Int := (scaled / twoPow 1074 : Nat)
    some (if x.isNegative then -whole else whole)
  else none

/-- The negated double. -/
def neg (x : Binary64) : Binary64 :=
  ofMagnitudeBits (!x.isNegative) x.magnitudeBits

/-- The sum, rounded. -/
def add (x y : Binary64) : Binary64 :=
  ⟨(Float.ofBits x.bits + Float.ofBits y.bits).toBits⟩

/-- The product, rounded. -/
def mul (x y : Binary64) : Binary64 :=
  ⟨(Float.ofBits x.bits * Float.ofBits y.bits).toBits⟩

end Binary64

end ClientSynth
