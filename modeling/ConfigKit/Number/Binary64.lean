-- SUMMARY: Binary floating-point numbers of 64 bits, and the rounding of a ratio to the nearest one.
/-!
# Binary floating-point numbers of 64 bits

A `Binary64` is its sixty-four bits: a sign, eleven bits of exponent and fifty-two of fraction. A finite
one stands for `m · 2 ^ q` with a natural `m` below `2 ^ 53`, which `significand` and `exponent` give.
Arithmetic is exact arithmetic on naturals followed by one rounding, `ofRatio`, to the nearest number,
a tie going to the even one.
-/

namespace ConfigKit

/-- A floating-point number, by its bits. Two numbers are equal when their bits are, so that the two
zeros differ and a not-a-number equals itself. -/
structure Binary64 where
  bits : UInt64
  deriving DecidableEq

namespace Binary64

/-- The bits of positive infinity: all exponent bits, and no others. -/
def infinityBits : Nat := 0x7FF <<< 52

def signBit : Nat := 1 <<< 63

def isNegative (x : Binary64) : Bool :=
  signBit ≤ x.bits.toNat

/-- The bits below the sign. They order the magnitudes. -/
def magnitudeBits (x : Binary64) : Nat :=
  x.bits.toNat % signBit

def isFinite (x : Binary64) : Bool :=
  x.magnitudeBits < infinityBits

def isInfinite (x : Binary64) : Bool :=
  x.magnitudeBits = infinityBits

def isNaN (x : Binary64) : Bool :=
  infinityBits < x.magnitudeBits

def isZero (x : Binary64) : Bool :=
  x.magnitudeBits = 0

/-- The number with given sign and magnitude bits. -/
def ofMagnitude (negative : Bool) (magnitude : Nat) : Binary64 :=
  ⟨.ofNat (if negative then signBit + magnitude else magnitude)⟩

def zero (negative : Bool) : Binary64 := ofMagnitude negative 0

def infinity (negative : Bool) : Binary64 := ofMagnitude negative infinityBits

/-- The quiet not-a-number without a sign. -/
def nan : Binary64 := ofMagnitude false (infinityBits + 1 <<< 51)

/-- The natural `m` of a finite number `m · 2 ^ q`. -/
def significand (x : Binary64) : Nat :=
  let fraction := x.magnitudeBits % Nat.pow 2 52
  if x.magnitudeBits / Nat.pow 2 52 = 0 then fraction else Nat.pow 2 52 + fraction

/-- The exponent `q` of a finite number `m · 2 ^ q`. -/
def exponent (x : Binary64) : Int :=
  let biased : Nat := x.magnitudeBits / Nat.pow 2 52
  if biased = 0 then -1074 else (biased : Int) - 1075

def neg (x : Binary64) : Binary64 :=
  ofMagnitude (!x.isNegative) x.magnitudeBits

/-- Equality of values: the zeros are one, and so are all that are not a number. -/
def sameValue (x y : Binary64) : Bool :=
  (x.isNaN && y.isNaN) || (x.isZero && y.isZero) || x == y

/-! ## Rounding -/

/-- The natural nearest to `num / den`, a tie going to the even one. -/
def roundHalfEven (num den : Nat) : Nat :=
  let down := num / den
  let twice := 2 * (num % den)
  if twice < den then down
  else if den < twice then down + 1
  else down + down % 2

/-- The exponent `q` at which `num / den` has a significand below `2 ^ 53`, and not below `2 ^ 52`
unless `q` is the least exponent there is. -/
def ratioExponent (num den : Nat) : Int :=
  let guess : Int := (num.log2 : Int) - (den.log2 : Int) - 52
  let reached (q : Int) : Bool :=
    Nat.pow 2 52 * den * Nat.pow 2 q.toNat ≤ num * Nat.pow 2 (-q).toNat
  max (-1074) (if reached guess then guess else guess - 1)

/-- The number nearest to `num / den`, and infinity from half a step above the greatest finite one.
A carry out of the significand moves to the next exponent by itself, as the bits of neighbours are
consecutive. -/
def ofRatio (negative : Bool) (num den : Nat) : Binary64 :=
  if num = 0 then zero negative
  else
    let q := ratioExponent num den
    let m := roundHalfEven (num * Nat.pow 2 (-q).toNat) (den * Nat.pow 2 q.toNat)
    ofMagnitude negative (min infinityBits ((q + 1074).toNat * Nat.pow 2 52 + m))

def ofNat (n : Nat) : Binary64 :=
  ofRatio false n 1

def ofInt (n : Int) : Binary64 :=
  ofRatio (n < 0) n.natAbs 1

/-- The number nearest to `digits · 10 ^ exponent`. Exponents so far out that the result is zero or
infinity whatever the digits are cut short, to keep the powers of ten small. -/
def ofDecimal (negative : Bool) (digits : Nat) (exponent : Int) : Binary64 :=
  let top : Int := exponent + (digits.log2 : Int)
  if digits = 0 ∨ (exponent < 0 ∧ exponent + (digits.log2 : Int) < -1200) then zero negative
  else if exponent > 400 ∨ top > 40000 then infinity negative
  else ofRatio negative (digits * Nat.pow 10 exponent.toNat) (Nat.pow 10 (-exponent).toNat)

/-- The product of two finite numbers of which the second is positive. -/
def mul (x y : Binary64) : Binary64 :=
  let q := x.exponent + y.exponent
  ofRatio x.isNegative (x.significand * y.significand * Nat.pow 2 q.toNat)
    (Nat.pow 2 (-q).toNat)

/-- The quotient of two finite numbers of which the second is positive. -/
def div (x y : Binary64) : Binary64 :=
  let q := x.exponent - y.exponent
  ofRatio x.isNegative (x.significand * Nat.pow 2 q.toNat)
    (y.significand * Nat.pow 2 (-q).toNat)

end Binary64

end ConfigKit
