import Criteria.Json.Term
import Criteria.Json.Value

namespace Criteria

/-! ## The value of a JSON text -/

/-! ### Strings -/

namespace JsonPiece

/-- Whether a code unit opens a surrogate pair. -/
def isHigh (code : Nat) : Bool := 0xD800 ≤ code && code ≤ 0xDBFF

/-- Whether a code unit closes a surrogate pair. -/
def isLow (code : Nat) : Bool := 0xDC00 ≤ code && code ≤ 0xDFFF

def paired (high low : Nat) : Char :=
  Char.ofNat (0x10000 + (high - 0xD800) * 0x400 + (low - 0xDC00))

/-- The characters that pieces stand for. Surrogates count in pairs only. -/
def characters? : List JsonPiece → Option (List Char)
  | [] => some []
  | plain c :: rest => (characters? rest).map (c :: ·)
  | unit code :: rest =>
    if isHigh code then
      match rest with
      | unit low :: more =>
        if isLow low then (characters? more).map (paired code low :: ·) else none
      | _ => none
    else if isLow code then none
    else (characters? rest).map (Char.ofNat code :: ·)

def string? (pieces : List JsonPiece) : Option String :=
  (characters? pieces).map String.ofList

end JsonPiece

/-! ### Numbers -/

namespace JsonNumeral

/-- Takes digits into a significand of 64 bits up to the first one that no
longer fits. -/
def absorb : Nat → List Char → Nat × List Char
  | significand, [] => (significand, [])
  | significand, digit :: rest =>
    let next := 10 * significand + Digit.value digit
    if next ≤ 18446744073709551615 then absorb next rest else (significand, digit :: rest)

def tenTo (exponent : Nat) : Double := Double.ofDecimal false 1 exponent

/-- A significand scaled by a power of ten in double arithmetic: one rounded
factor, or two below the least power that a double holds. Overflow has no
value. -/
def scaled? (significand : Double) (exponent : Int) : Option Double :=
  if significand.isZero then some significand
  else if 308 < exponent then none
  else if 0 ≤ exponent then
    let product := significand.times (tenTo exponent.toNat)
    if product.isInfinite then none else some product
  else if -308 ≤ exponent then
    some (significand.dividedBy (tenTo (-exponent).toNat))
  else if -616 ≤ exponent then
    some ((significand.dividedBy (tenTo 308)).dividedBy (tenTo (-exponent - 308).toNat))
  else some (Double.zero significand.isNegative)

/-- A numeral that is neither too long nor has a point or a power is a whole
number; every other one is a double. Digits past the significand only move the
point, and minus zero is a double. -/
def value? (numeral : JsonNumeral) : Option JsonNumber :=
  let (significand, long) := absorb 0 numeral.whole
  if long.isEmpty && numeral.fraction.isEmpty && numeral.power.isNone then
    if !numeral.negative then some (.integer significand)
    else if 0 < significand ∧ significand ≤ 9223372036854775808 then
      some (.integer (-significand))
    else some (.real (Double.ofFraction true significand 1))
  else
    let (full, unread) := absorb significand numeral.fraction
    let taken := numeral.fraction.length - unread.length
    let exponent := numeral.power.getD 0 + long.length - taken
    (scaled? (Double.ofFraction numeral.negative full 1) exponent).map .real

end JsonNumeral

/-! ### Terms -/

namespace JsonTerm

mutual

/-- The value of a term; a repeated member keeps its first place and its last
value. -/
def value? : JsonTerm → Option Json
  | null => some .null
  | bool b => some (.bool b)
  | number numeral => numeral.value?.map .number
  | string pieces => (JsonPiece.string? pieces).map .string
  | array items => (values? items).map .array
  | object members => (memberValues? members).map fun entries => .object (Keyed.ofList entries)

def values? : List JsonTerm → Option (List Json)
  | [] => some []
  | head :: tail => do
    let first ← value? head
    let rest ← values? tail
    pure (first :: rest)

def memberValues? : List (List JsonPiece × JsonTerm) → Option (List (String × Json))
  | [] => some []
  | (name, term) :: tail => do
    let key ← JsonPiece.string? name
    let first ← value? term
    let rest ← memberValues? tail
    pure ((key, first) :: rest)

end

end JsonTerm

namespace Json

/-- How deep arrays and objects may nest in a text. -/
def deepest : Nat := 127

def ofText? (text : String) : Option Json :=
  (JsonTerm.ofText? deepest text).bind JsonTerm.value?

end Json

end Criteria
