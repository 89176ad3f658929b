import Criteria.Number.Double

namespace Criteria

/-! ## Decimal text of a double

A finite double is written with the fewest significant digits that read back as
the same double, and of those with the nearest ones. -/

/-- The number `digits * 10 ^ exponent`. -/
structure Decimal where
  digits : Nat
  exponent : Int
deriving DecidableEq, Repr

/-- Which way to go when two shortest decimals are equally near. -/
inductive Tie
  | even
  | up
deriving DecidableEq, Repr

namespace Double

/-- The reals that round to one magnitude, in units of a common denominator. -/
structure Span where
  low : Nat
  value : Nat
  high : Nat
  unit : Nat
  closed : Bool

/-- The reals nearer to a finite number than to its neighbours. Below a power of
two the neighbour is only half as far away, and the ends belong to the span
when the significand is even. -/
def span (d : Double) : Span :=
  let quarter := if 1076 ≤ d.scale then Nat.pow 2 (d.scale - 1076) else 1
  let below := if d.significand = hiddenBit ∧ 0 < d.scale then 1 else 2
  { low := (4 * d.significand - below) * quarter
    value := 4 * d.significand * quarter
    high := (4 * d.significand + 2) * quarter
    unit := Nat.pow 2 (1076 - d.scale)
    closed := d.significand % 2 = 0 }

def powerOfTen (exponent : Int) : Nat × Nat :=
  (Nat.pow 10 exponent.toNat, Nat.pow 10 (-exponent).toNat)

def Span.holds (span : Span) (decimal : Decimal) : Bool :=
  let power := powerOfTen decimal.exponent
  let point := decimal.digits * power.1 * span.unit
  let low := span.low * power.2
  let high := span.high * power.2
  if span.closed then low ≤ point && point ≤ high
  else low < point && point < high

/-- The number of digits before the decimal point of a positive fraction; zero
and below when it starts behind the point. -/
def magnitude (numerator denominator : Nat) : Int :=
  let guess : Int :=
    ((Nat.toDigits 10 numerator).length : Int) - (Nat.toDigits 10 denominator).length
  let power := powerOfTen guess
  if denominator * power.1 ≤ numerator * power.2 then guess + 1 else guess

/-- The decimal of a span that lies nearest to its value among those that end
at one decimal place. -/
def Span.onGrid (tie : Tie) (span : Span) (exponent : Int) : Option Decimal :=
  let power := powerOfTen exponent
  let numerator := span.value * power.2
  let denominator := span.unit * power.1
  let below := numerator / denominator
  let lower : Decimal := ⟨below, exponent⟩
  let upper : Decimal := ⟨below + 1, exponent⟩
  let twice := 2 * (numerator % denominator)
  let preferUpper :=
    denominator < twice ||
      (twice == denominator && (tie == .up || below % 2 == 1))
  match span.holds lower, span.holds upper with
  | true, true => some (if preferUpper then upper else lower)
  | true, false => some lower
  | false, true => some upper
  | false, false => none

/-- Drops the zeros at the end of the digits; `fuel` bounds their number. -/
def dropZeros : Nat → Decimal → Decimal
  | 0, decimal => decimal
  | fuel + 1, decimal =>
    if decimal.digits ≠ 0 ∧ decimal.digits % 10 = 0 then
      dropZeros fuel ⟨decimal.digits / 10, decimal.exponent + 1⟩
    else decimal

/-- The shortest decimal of a finite number that is not zero. Seventeen digits
always suffice. -/
def shortest (tie : Tie) (d : Double) : Decimal :=
  let span := d.span
  let top := magnitude span.value span.unit
  let found := (List.range 17).findSome? fun count =>
    span.onGrid tie (top - (count + 1 : Nat))
  dropZeros 17 (found.getD ⟨0, 0⟩)

end Double

/-! ### Positional and scientific notation -/

namespace Decimal

def text (decimal : Decimal) : List Char :=
  Nat.toDigits 10 decimal.digits

def point (decimal : Decimal) : Int :=
  decimal.text.length + decimal.exponent

/-- All digits written out around the point; a whole number ends in `whole`. -/
def positional (whole : List Char) (decimal : Decimal) : List Char :=
  let digits := decimal.text
  if 0 ≤ decimal.exponent then
    digits ++ List.replicate decimal.exponent.toNat '0' ++ whole
  else if 0 < decimal.point then
    digits.take decimal.point.toNat ++ '.' :: digits.drop decimal.point.toNat
  else
    '0' :: '.' :: List.replicate (-decimal.point).toNat '0' ++ digits

/-- One digit before the point and a signed power of ten after the mark. -/
def scientific (mark : Char) (decimal : Decimal) : List Char :=
  let power := decimal.point - 1
  let mantissa :=
    match decimal.text with
    | [] => []
    | [digit] => [digit]
    | digit :: more => digit :: '.' :: more
  mantissa ++ mark :: (if power < 0 then '-' else '+') :: Nat.toDigits 10 power.natAbs

end Decimal

namespace Double

def signText (d : Double) : List Char :=
  if d.isNegative then ['-'] else []

/-- A double as plain text: always positional, a whole number without a point,
and a tie between two shortest decimals goes up. -/
def plainText (d : Double) : String :=
  String.ofList <|
    if d.isNaN then ['N', 'a', 'N']
    else if d.isInfinite then d.signText ++ ['i', 'n', 'f']
    else if d.isZero then d.signText ++ ['0']
    else d.signText ++ (d.shortest .up).positional []

end Double

end Criteria
