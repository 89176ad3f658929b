import Criteria.Text.Scan

namespace Criteria.Digit

/-! ## Decimal digits

Only the ten ASCII digits count. -/

def value (digit : Char) : Nat :=
  digit.toNat - '0'.toNat

/-- The number a run of decimal digits denotes; the empty run is zero. -/
def number (digits : List Char) : Nat :=
  digits.foldl (fun total digit => 10 * total + value digit) 0

def many : Scan (List Char) :=
  Scan.span₁ Char.isDigit

def exactly (count : Nat) : Scan Nat :=
  number <$> Scan.spanBetween count count Char.isDigit

/-- Reads a number of one to `most` digits, as many as stand there. -/
def upTo (most : Nat) : Scan Nat :=
  number <$> Scan.spanBetween 1 most Char.isDigit

/-- The number that a whole text spells: at least one digit, perhaps after a plus
sign. -/
def unsigned? (text : List Char) : Option Nat :=
  let digits := if text.head? = some '+' then text.drop 1 else text
  if !digits.isEmpty && digits.all Char.isDigit then some (number digits) else none

/-! ## Signed numerals -/

/-- Reads an optional `+` or `-` and tells whether it was `-`. -/
def sign : Scan Bool := fun text =>
  match text with
  | '-' :: rest => some (true, rest)
  | '+' :: rest => some (false, rest)
  | _ => some (false, text)

def signed (negative : Bool) (magnitude : Nat) : Int :=
  if negative then -(magnitude : Int) else magnitude

def integer : Scan Int := do
  let negative ← sign
  let digits ← many
  pure (signed negative (number digits))

/-- The integer that a whole text spells, sign and leading zeros allowed. -/
def integer? (text : String) : Option Int :=
  integer.run? text

end Criteria.Digit
