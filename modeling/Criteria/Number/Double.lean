namespace Criteria

/-! ## Binary64 numbers as exact data

A double is its 64 bits. Its value is read off them as a whole number times a
power of two, so that every operation here is exact integer arithmetic followed
by one rounding. -/

/-- A binary64 number. -/
structure Double where
  bits : UInt64
deriving DecidableEq, Repr

namespace Double

def signBit : Nat := 0x8000000000000000

/-- The least significand of full length, of 53 bits. -/
def hiddenBit : Nat := 0x10000000000000

def infinityBits : Nat := 0x7FF0000000000000

/-- The number with this sign and these lower 63 bits. -/
def ofBits (negative : Bool) (lower : Nat) : Double :=
  ⟨UInt64.ofNat (if negative then signBit + lower else lower)⟩

/-- The quiet not-a-number of positive sign. -/
def nan : Double := ofBits false 0x7FF8000000000000

def infinity (negative : Bool) : Double := ofBits negative infinityBits

def zero (negative : Bool) : Double := ofBits negative 0

def isNegative (d : Double) : Bool := signBit ≤ d.bits.toNat

def lowerBits (d : Double) : Nat := d.bits.toNat % signBit

def isNaN (d : Double) : Bool := infinityBits < d.lowerBits

def isInfinite (d : Double) : Bool := d.lowerBits = infinityBits

def isFinite (d : Double) : Bool := d.lowerBits < infinityBits

def isZero (d : Double) : Bool := d.lowerBits = 0

/-! ### The value of a finite number

A finite number has the magnitude `significand * 2 ^ (scale - 1074)`. -/

/-- The power of two above the least one, `2 ^ -1074`. -/
def scale (d : Double) : Nat := d.lowerBits / hiddenBit - 1

def significand (d : Double) : Nat :=
  if d.lowerBits / hiddenBit = 0 then d.lowerBits
  else hiddenBit + d.lowerBits % hiddenBit

/-- The magnitude as a fraction of whole numbers. -/
def fraction (d : Double) : Nat × Nat :=
  if 1074 ≤ d.scale then (d.significand * Nat.pow 2 (d.scale - 1074), 1)
  else (d.significand, Nat.pow 2 (1074 - d.scale))

/-! ### Rounding -/

/-- The whole number nearest to a fraction; a half goes to the even side. -/
def nearestEven (numerator denominator : Nat) : Nat :=
  let quotient := numerator / denominator
  let remainder := numerator % denominator
  if 2 * remainder < denominator then quotient
  else if denominator < 2 * remainder then quotient + 1
  else if quotient % 2 = 0 then quotient
  else quotient + 1

/-- The scale at which a positive fraction has a significand of 53 bits, or the
least scale when it is too small for that. -/
def scaleOf (numerator denominator : Nat) : Nat :=
  let exponent : Int := (numerator.log2 : Int) - denominator.log2
  let tooHigh :=
    if 0 ≤ exponent then numerator < denominator * Nat.pow 2 exponent.toNat
    else numerator * Nat.pow 2 (-exponent).toNat < denominator
  (1074 + (if tooHigh then exponent - 1 else exponent) - 52).toNat

/-- The double nearest to a fraction, ties to even, overflow to infinity. -/
def ofFraction (negative : Bool) (numerator denominator : Nat) : Double :=
  if numerator = 0 then zero negative
  else
    let scale := scaleOf numerator denominator
    let rounded :=
      if 1074 ≤ scale then nearestEven numerator (denominator * Nat.pow 2 (scale - 1074))
      else nearestEven (numerator * Nat.pow 2 (1074 - scale)) denominator
    ofBits negative (min infinityBits (scale * hiddenBit + rounded))

def ofInt (n : Int) : Double :=
  ofFraction (n < 0) n.natAbs 1

/-- The double nearest to `digits * 10 ^ exponent`. Exponents far outside the
range are settled by the number of digits alone. -/
def ofDecimal (negative : Bool) (digits : Nat) (exponent : Int) : Double :=
  let size : Int := (Nat.toDigits 10 digits).length
  if digits = 0 then zero negative
  else if 400 < size + exponent then infinity negative
  else if size + exponent < -400 then zero negative
  else if 0 ≤ exponent then ofFraction negative (digits * Nat.pow 10 exponent.toNat) 1
  else ofFraction negative digits (Nat.pow 10 (-exponent).toNat)

/-! ### Arithmetic on finite numbers -/

def times (a b : Double) : Double :=
  ofFraction (a.isNegative != b.isNegative)
    (a.fraction.1 * b.fraction.1) (a.fraction.2 * b.fraction.2)

def dividedBy (a b : Double) : Double :=
  ofFraction (a.isNegative != b.isNegative)
    (a.fraction.1 * b.fraction.2) (a.fraction.2 * b.fraction.1)

/-- Whether a number equals an integer; not-a-number and infinities equal
none. -/
def equalsInt (d : Double) (n : Int) : Bool :=
  d.isFinite && d.fraction.1 == n.natAbs * d.fraction.2 &&
    (n == 0 || d.isNegative == decide (n < 0))

end Double

end Criteria
