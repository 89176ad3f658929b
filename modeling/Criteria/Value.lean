import Criteria.Keyed
import Criteria.Number.Decimal128
import Criteria.Number.Double
import Criteria.ObjectId

namespace Criteria

/-! ## Values of the document store -/

/-- A regular expression with its option letters. -/
structure Regex where
  pattern : String
  options : String
deriving DecidableEq, Repr

/-- A value of the store. Fields of a document stand in order under distinct
names. -/
inductive Value
  | double (d : Double)
  | string (s : String)
  | document (fields : List (String × Value))
  | array (items : List Value)
  | binary (subtype : UInt8) (bytes : List UInt8)
  | undefined
  | objectId (id : ObjectId)
  | boolean (b : Bool)
  | dateTime (milliseconds : Int64)
  | null
  | regex (r : Regex)
  | dbPointer (collection : String) (id : ObjectId)
  | code (source : String)
  | symbol (name : String)
  | codeWithScope (source : String) (scope : List (String × Value))
  | int32 (n : Int32)
  | timestamp (seconds increment : UInt32)
  | int64 (n : Int64)
  | decimal128 (d : Decimal128)
  | maxKey
  | minKey

abbrev Document := Keyed Value

/-! ## Kinds of values -/

inductive Kind
  | double | string | document | array | binary | undefined | objectId | boolean
  | dateTime | null | regex | dbPointer | code | symbol | codeWithScope | int32
  | timestamp | int64 | decimal128 | maxKey | minKey
deriving DecidableEq, Repr

def Kind.name : Kind → String
  | double => "Double"
  | string => "String"
  | document => "EmbeddedDocument"
  | array => "Array"
  | binary => "Binary"
  | undefined => "Undefined"
  | objectId => "ObjectId"
  | boolean => "Boolean"
  | dateTime => "DateTime"
  | null => "Null"
  | regex => "RegularExpression"
  | dbPointer => "DbPointer"
  | code => "JavaScriptCode"
  | symbol => "Symbol"
  | codeWithScope => "JavaScriptCodeWithScope"
  | int32 => "Int32"
  | timestamp => "Timestamp"
  | int64 => "Int64"
  | decimal128 => "Decimal128"
  | maxKey => "MaxKey"
  | minKey => "MinKey"

namespace Value

def kind : Value → Kind
  | double _ => .double
  | string _ => .string
  | document _ => .document
  | array _ => .array
  | binary _ _ => .binary
  | undefined => .undefined
  | objectId _ => .objectId
  | boolean _ => .boolean
  | dateTime _ => .dateTime
  | null => .null
  | regex _ => .regex
  | dbPointer _ _ => .dbPointer
  | code _ => .code
  | symbol _ => .symbol
  | codeWithScope _ _ => .codeWithScope
  | int32 _ => .int32
  | timestamp _ _ => .timestamp
  | int64 _ => .int64
  | decimal128 _ => .decimal128
  | maxKey => .maxKey
  | minKey => .minKey

def fitsInt32 (n : Int) : Bool := -2147483648 ≤ n && n ≤ 2147483647

def fitsInt64 (n : Int) : Bool := -9223372036854775808 ≤ n && n ≤ 9223372036854775807

/-- The smaller of the two integer kinds that holds an integer. -/
def ofInt? (n : Int) : Option Value :=
  if fitsInt32 n then some (int32 (Int32.ofInt n))
  else if fitsInt64 n then some (int64 (Int64.ofInt n))
  else none

end Value

end Criteria
