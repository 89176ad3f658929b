import Criteria.Text.Digit

namespace Criteria

/-! ## Decimal128 numbers

Thirty-four decimal digits and an exponent from -6176 to 6111, with the texts
that the decimal interchange formats give them. -/

inductive Decimal128
  | notANumber (negative signalling : Bool)
  | infinity (negative : Bool)
  | finite (negative : Bool) (coefficient : Nat) (exponent : Int)
deriving DecidableEq, Repr

namespace Decimal128

def precision : Nat := 34

def leastExponent : Int := -6176

def greatestExponent : Int := 6111

/-! ### Reading

The places of a coefficient are counted before it is known whether digits stand
in them: a plus sign in front of the coefficient takes up a place too. -/

/-- A written exponent, which 16 bits must hold on every step of the way. -/
def narrow? (exponent : Int) : Option Int :=
  if -32768 ≤ exponent ∧ exponent ≤ 32767 then some exponent else none

/-- Drops `count` places at the end, all of which must be zero. -/
def dropPlaces? (count : Nat) (places : List Char) : Option (List Char) :=
  let kept := places.length - count
  if places.length < count then none
  else if (places.drop kept).all (· == '0') then some (places.take kept)
  else none

/-- Brings a coefficient down to the precision, at the cost of a greater
exponent. -/
def fitPlaces? (places : List Char) (exponent : Int) : Option (List Char × Int) := do
  let excess := places.length - precision
  let fitted ← dropPlaces? excess places
  let moved ← narrow? excess
  let raised ← narrow? (exponent + moved)
  pure (fitted, raised)

/-- Brings an exponent into range by dropping or adding zeros. Zero itself
takes the nearest exponent. -/
def fitExponent? (places : List Char) (exponent : Int) : Option (List Char × Int) :=
  if exponent < leastExponent then
    if places = ['0'] then some (places, leastExponent)
    else
      (dropPlaces? (leastExponent - exponent).toNat places).map (·, leastExponent)
  else if greatestExponent < exponent then
    let missing := (exponent - greatestExponent).toNat
    if places = ['0'] then some (places, greatestExponent)
    else if places.length + missing ≤ precision then
      some (places ++ List.replicate missing '0', greatestExponent)
    else none
  else some (places, exponent)

/-- The finite number with these places, if it is exactly representable. No
places at all are a zero. -/
def ofPlaces? (negative : Bool) (places : List Char) (exponent : Int) :
    Option Decimal128 := do
  let significant :=
    match places.dropWhile (· == '0') with
    | [] => ['0']
    | kept => kept
  let (fitted, scale) ← fitPlaces? significant exponent
  let (final, power) ← fitExponent? fitted scale
  let coefficient ← Digit.unsigned? final
  pure (finite negative coefficient power)

def isPowerMark (c : Char) : Bool := c == 'e' || c == 'E'

/-- The power of ten behind the mark, or zero where no mark stands. -/
def power? (text : List Char) : Option Int :=
  match text with
  | [] => some 0
  | _ :: digits => (Digit.integer? (String.ofList digits)).bind narrow?

/-- The finite number that a text without its sign spells: a coefficient, which
may have a point in it, and perhaps a power of ten. -/
def ofFinite? (negative : Bool) (text : List Char) : Option Decimal128 := do
  let written := text.takeWhile fun c => !isPowerMark c
  let power ← power? (text.dropWhile fun c => !isPowerMark c)
  let whole := written.takeWhile (· != '.')
  let fraction := (written.dropWhile (· != '.')).drop 1
  let moved ← narrow? fraction.length
  let exponent ← narrow? (power - moved)
  ofPlaces? negative (whole ++ fraction) exponent

/-- The number that a text without its sign spells: a word for infinity or
not-a-number in any case, or a finite number. -/
def ofUnsigned? (negative : Bool) (text : List Char) : Option Decimal128 :=
  let word := String.ofList (text.map Char.toLower)
  if word = "nan" then some (notANumber negative false)
  else if word = "snan" then some (notANumber negative true)
  else if word = "inf" ∨ word = "infinity" then some (infinity negative)
  else ofFinite? negative text

def ofText? (text : String) : Option Decimal128 :=
  match text.toList with
  | '-' :: rest => ofUnsigned? true rest
  | '+' :: rest => ofUnsigned? false rest
  | rest => ofUnsigned? false rest

/-! ### Writing -/

/-- The coefficient with the point set in, for exponents from 0 down. -/
def plain (digits : List Char) (exponent : Int) : List Char :=
  let places := (-exponent).toNat
  if places = 0 then digits
  else if digits.length ≤ places then
    '0' :: '.' :: List.replicate (places - digits.length) '0' ++ digits
  else
    digits.take (digits.length - places) ++ '.' :: digits.drop (digits.length - places)

/-- One digit before the point and the signed power of ten after `E`. -/
def scientific (digits : List Char) (adjusted : Int) : List Char :=
  let mantissa :=
    match digits with
    | [] => []
    | [digit] => [digit]
    | digit :: more => digit :: '.' :: more
  let sign := if adjusted < 0 then ['-'] else if 0 < adjusted then ['+'] else []
  mantissa ++ 'E' :: sign ++ Nat.toDigits 10 adjusted.natAbs

/-- The canonical text: plain when the exponent is not positive and the number
is not too small, scientific otherwise. Not-a-number shows no sign. -/
def text : Decimal128 → String
  | notANumber _ _ => "NaN"
  | infinity negative => if negative then "-Infinity" else "Infinity"
  | finite negative coefficient exponent =>
    let digits := Nat.toDigits 10 coefficient
    let adjusted := exponent + digits.length - 1
    let sign := if negative then ['-'] else []
    String.ofList <| sign ++
      if exponent ≤ 0 ∧ -6 ≤ adjusted then plain digits exponent
      else scientific digits adjusted

/-! ### The interchange format -/

/-- The 128 bits: the sign, fourteen bits of exponent and the coefficient. The
numbers that are not finite have marks of their own instead. -/
def bits : Decimal128 → Nat
  | notANumber negative signalling =>
    signed negative (if signalling then 0x7E <<< 120 else 0x7C <<< 120)
  | infinity negative => signed negative (0x78 <<< 120)
  | finite negative coefficient exponent =>
    signed negative ((exponent - leastExponent).toNat <<< 113 + coefficient)
where
  signed (negative : Bool) (magnitude : Nat) : Nat :=
    if negative then 1 <<< 127 + magnitude else magnitude

/-- The sixteen bytes of the bits, the lowest first. -/
def bytes (d : Decimal128) : List UInt8 :=
  (List.range 16).map fun place => UInt8.ofNat (d.bits >>> (8 * place))

end Decimal128

end Criteria
