import Criteria.ExtendedJson.Wrapper
import Criteria.Number.Shortest

namespace Criteria.Value

/-! ## From values to Extended JSON

The relaxed form: numbers are plain JSON numbers where JSON has them, and dates
from 1970 to 9999 are written as text. The scope of code has a form of its own
for doubles, dates, bytes and decimals. -/

inductive Form
  | relaxed
  | scope
deriving DecidableEq, Repr

def wrapped (wrapper : Wrapper) (body : Json) : Json :=
  .object [(wrapper.key, body)]

def wrappedText (wrapper : Wrapper) (text : String) : Json :=
  wrapped wrapper (.string text)

def bytesJson (bytes : List UInt8) : Json :=
  .array (bytes.map fun byte => .number (.integer byte.toNat))

/-- A double. Without a value it is wrapped, or null in a scope. -/
def doubleJson (form : Form) (d : Double) : Json :=
  if d.isFinite then .number (.real d)
  else
    match form with
    | .scope => .null
    | .relaxed =>
      let name := if d.isNaN then "NaN" else "Infinity"
      wrappedText .double (if d.isNegative then "-" ++ name else name)

/-- The first instant of the year 10000. -/
def endOfText : Int := 253402300800000

/-- A date as text, or as a long integer in a scope and outside the years 1970 to
9999. -/
def dateJson (form : Form) (milliseconds : Int64) : Json :=
  let instant := milliseconds.toInt
  if form = .relaxed ∧ 0 ≤ instant ∧ instant < endOfText then
    wrappedText .dateTime (Stamp.textOf instant)
  else wrapped .dateTime (wrappedText .int64 (Int.repr instant))

/-- Bytes with their subtype. In a scope, bytes of the generic subtype stand as
numbers. -/
def binaryJson (form : Form) (subtype : UInt8) (bytes : List UInt8) : Json :=
  if form = .scope ∧ subtype = 0 then bytesJson bytes
  else
    wrapped .binary <| .object
      [("base64", .string (Base64.encode bytes)),
        ("subType", .string (Hexadecimal.encode [subtype]))]

/-- A decimal as text, or as its bytes in a scope. -/
def decimalJson (form : Form) (d : Decimal128) : Json :=
  match form with
  | .relaxed => wrappedText .decimal128 d.text
  | .scope => .object [("$numberDecimalBytes", bytesJson d.bytes)]

mutual

def formJson (form : Form) : Value → Json
  | double d => doubleJson form d
  | string s => .string s
  | document fields => .object (fieldsJson form fields)
  | array items => .array (itemsJson form items)
  | binary subtype bytes => binaryJson form subtype bytes
  | undefined => wrapped .undefined (.bool true)
  | objectId id => wrappedText .objectId id.text
  | boolean b => .bool b
  | dateTime milliseconds => dateJson form milliseconds
  | null => .null
  | regex r =>
    wrapped .regex <| .object
      [("pattern", .string r.pattern), ("options", .string r.options)]
  | dbPointer collection id =>
    wrapped .dbPointer <| .object
      [("$ref", .string collection), ("$id", wrappedText .objectId id.text)]
  | code source => wrappedText .code source
  | symbol name => wrappedText .symbol name
  | codeWithScope source scope =>
    .object
      [(Wrapper.code.key, .string source), ("$scope", .object (fieldsJson .scope scope))]
  | int32 n => .number (.integer n.toInt)
  | timestamp seconds increment =>
    wrapped .timestamp <| .object
      [("t", .number (.integer seconds.toNat)), ("i", .number (.integer increment.toNat))]
  | int64 n => .number (.integer n.toInt)
  | decimal128 d => decimalJson form d
  | maxKey => wrapped .maxKey (.number (.integer 1))
  | minKey => wrapped .minKey (.number (.integer 1))

def itemsJson (form : Form) : List Value → List Json
  | [] => []
  | head :: tail => formJson form head :: itemsJson form tail

def fieldsJson (form : Form) : List (String × Value) → List (String × Json)
  | [] => []
  | (name, value) :: tail => (name, formJson form value) :: fieldsJson form tail

end

/-- The relaxed Extended JSON of a value. -/
def toJson (value : Value) : Json :=
  formJson .relaxed value

end Criteria.Value
