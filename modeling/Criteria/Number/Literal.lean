import Criteria.Number.Double
import Criteria.Text.Digit

namespace Criteria

/-! ## Real literals

A literal is a mantissa with or without a point and an optional power of ten.
At least one digit stands before or behind the point. -/

/-- A real literal without its sign. -/
structure Literal where
  whole : List Char
  fraction : List Char
  exponent : Int
deriving DecidableEq, Repr

namespace Literal

def toDouble (negative : Bool) (literal : Literal) : Double :=
  Double.ofDecimal negative (Digit.number (literal.whole ++ literal.fraction))
    (literal.exponent - literal.fraction.length)

def wholeFirst : Scan (List Char × List Char) := do
  let whole ← Digit.many
  let fraction ← Scan.optional do
    Scan.char '.'
    Scan.span Char.isDigit
  pure (whole, fraction.getD [])

def pointFirst : Scan (List Char × List Char) := do
  Scan.char '.'
  let fraction ← Digit.many
  pure ([], fraction)

def power : Scan Int := do
  let _ ← Scan.next fun c => c == 'e' || c == 'E'
  Digit.integer

/-- Reads a literal; a mark of the power that no digits follow is left
standing. -/
def scan : Scan Literal := do
  let (whole, fraction) ← Scan.orElse wholeFirst pointFirst
  let exponent ← Scan.optional power
  pure ⟨whole, fraction, exponent.getD 0⟩

end Literal

namespace Double

def scanReal : Scan Double := do
  let negative ← Digit.sign
  Scan.orElse
    (do
      Scan.literal "Infinity".toList
      pure (infinity negative))
    (do
      let literal ← Literal.scan
      pure (literal.toDouble negative))

/-- Reads one of the words for infinity and not-a-number in any case, or a
literal, after a sign that not-a-number keeps too. -/
def scanAny : Scan Double := do
  let negative ← Digit.sign
  fun text =>
    let word := String.ofList (text.map Char.toLower)
    if word = "inf" ∨ word = "infinity" then some (infinity negative, [])
    else if word = "nan" then some (ofBits negative nan.lowerBits, [])
    else (Literal.toDouble negative <$> Literal.scan) text

def ofText? (text : String) : Option Double :=
  scanAny.run? text

end Double

end Criteria
