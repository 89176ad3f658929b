import Criteria.Number.Literal
import Criteria.Text.Blank
import Criteria.Value

namespace Criteria.Coercion

/-! ## Numbers at the front of a text

White space before the number and anything after it are ignored. -/

/-- Reads an optional sign and digits behind white space. -/
def integerFront? (text : List Char) : Option (Bool × List Char) :=
  let scan : Scan (Bool × List Char) := do
    let negative ← Digit.sign
    let digits ← Digit.many
    pure (negative, digits)
  (scan (Text.dropBlank text)).map Prod.fst

/-- A whole number as the smaller integer kind that holds it, or as the nearest
double. -/
def wholeValue (negative : Bool) (digits : List Char) : Value :=
  let magnitude := Digit.number digits
  (Value.ofInt? (Digit.signed negative magnitude)).getD
    (.double (Double.ofDecimal negative magnitude 0))

def integer? (text : String) : Option Value :=
  (integerFront? text.toList).map fun (negative, digits) => wholeValue negative digits

def float? (text : String) : Option Double :=
  (Double.scanReal (Text.dropBlank text.toList)).map Prod.fst

end Criteria.Coercion
