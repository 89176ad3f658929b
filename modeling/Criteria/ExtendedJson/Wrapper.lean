import Criteria.Calendar.Stamp
import Criteria.Json.Value
import Criteria.Number.Literal
import Criteria.Text.Base64
import Criteria.Value

namespace Criteria

/-! ## Wrappers of Extended JSON

A value that JSON lacks is written as an object with one reserved key. An
object that has a reserved key must be such a wrapper and nothing else. -/

/-- The forms that an object with a reserved key can take. -/
inductive Wrapper
  | objectId | symbol | regex | int32 | int64 | double | decimal128 | binary | uuid
  | code | timestamp | dateTime | minKey | maxKey | dbPointer | undefined
deriving DecidableEq, Repr

namespace Wrapper

def key : Wrapper → String
  | objectId => "$oid"
  | symbol => "$symbol"
  | regex => "$regularExpression"
  | int32 => "$numberInt"
  | int64 => "$numberLong"
  | double => "$numberDouble"
  | decimal128 => "$numberDecimal"
  | binary => "$binary"
  | uuid => "$uuid"
  | code => "$code"
  | timestamp => "$timestamp"
  | dateTime => "$date"
  | minKey => "$minKey"
  | maxKey => "$maxKey"
  | dbPointer => "$dbPointer"
  | undefined => "$undefined"

/-- All forms. When an object has several reserved keys, the first of this list
decides what it must be. -/
def all : List Wrapper :=
  [objectId, symbol, regex, int32, int64, double, decimal128, binary, uuid, code,
    timestamp, dateTime, minKey, maxKey, dbPointer, undefined]

def of? (members : List (String × Json)) : Option Wrapper :=
  all.find? fun wrapper => Keyed.contains members wrapper.key

/-! ### Bodies -/

/-- The fields of a record that is written as an object with exactly these
names or as the list of the fields. -/
def record? (names : List String) : Json → Option (List Json)
  | .object members => Json.membersExactly? names members
  | .array items => if items.length = names.length then some items else none
  | _ => none

def texts? (names : List String) (body : Json) : Option (List String) := do
  let fields ← record? names body
  fields.mapM Json.text?

def int64Text? (text : String) : Option Int64 :=
  ((Digit.integer? text).filter Value.fitsInt64).map Int64.ofInt

def uint32? (body : Json) : Option UInt32 :=
  (body.integer?.filter fun n => 0 ≤ n && n ≤ 4294967295).map fun n => UInt32.ofNat n.toNat

/-- The instant of a strict RFC 3339 text, rounded toward the start of 1970.
Second 60 is only the last one of a month in universal time, and stands for the
instant just before the next second. -/
def instant? (text : String) : Option Int64 := do
  let scan := Stamp.scanRfc3339 (fun c => c.toNat < 128) (· == '-')
  let stamp ← Stamp.real? scan text
  let leap := stamp.second == 60
  let seconds := if leap then stamp.seconds - 1 else stamp.seconds
  let nanosecond := if leap then 999999999 else stamp.nanosecond
  let date := CivilDate.ofDayNumber (seconds / 86400)
  let closesMonth :=
    seconds % 86400 == 86399 && date.day == CivilDate.monthLength date.year date.month
  if leap && !closesMonth then none
  else some (Int64.ofInt (Int.tdiv (seconds * 1000000000 + nanosecond) 1000000))

/-- Removes the hyphens of the form eight, four, four, four, twelve. -/
def unhyphenated? (text : List Char) : Option (List Char) :=
  let hyphens := [8, 13, 18, 23]
  if hyphens.all fun place => text[place]? == some '-' then
    some (text.take 8 ++ (text.drop 9).take 4 ++ (text.drop 14).take 4 ++
      (text.drop 19).take 4 ++ text.drop 24)
  else none

/-- What a universally unique identifier written as a name begins with, in
whatever case. -/
def uuidName : List Char := "urn:uuid:".toList

/-- The bytes of a universally unique identifier, written with hyphens or
without, the former also in braces or as a name. -/
def uuidBytes? (text : String) : Option (List UInt8) := do
  let characters := text.toList
  let digits ←
    if characters.length = 32 then some characters
    else if characters.length = 36 then unhyphenated? characters
    else if characters.length = 38 ∧ characters.head? = some '\x7b' ∧
        characters.getLast? = some '\x7d' then
      unhyphenated? ((characters.drop 1).take 36)
    else if characters.length = 45 ∧ (characters.take 9).map Char.toLower = uuidName then
      unhyphenated? (characters.drop 9)
    else none
  Hexadecimal.decodeChars? digits

/-- The instant of a date body: a record of a long integer, a text, or an
integer literal. -/
def dateBody? (body : Json) : Option Int64 :=
  match body with
  | .string text => instant? text
  | .number (.integer n) => if Value.fitsInt64 n then some (Int64.ofInt n) else none
  | _ =>
    match texts? [int64.key] body with
    | some [text] => int64Text? text
    | _ => none

def objectIdBody? (body : Json) : Option ObjectId :=
  match texts? [objectId.key] body with
  | some [text] => ObjectId.ofText? text
  | _ => none

/-- The value that a form gives to its body. Code stands here without a
scope. -/
def value? (wrapper : Wrapper) (body : Json) : Option Value :=
  match wrapper with
  | objectId => (body.text?.bind ObjectId.ofText?).map .objectId
  | symbol => body.text?.map .symbol
  | regex =>
    match texts? ["pattern", "options"] body with
    | some [pattern, options] =>
      some (.regex ⟨pattern, String.ofList (options.toList.mergeSort fun a b => a ≤ b)⟩)
    | _ => none
  | int32 => do
    let n ← (← body.text?.map Digit.integer?)
    if Value.fitsInt32 n then some (.int32 (Int32.ofInt n)) else none
  | int64 => (body.text?.bind int64Text?).map .int64
  | double => (body.text?.bind Double.ofText?).map .double
  | decimal128 => (body.text?.bind Decimal128.ofText?).map .decimal128
  | binary =>
    match texts? ["base64", "subType"] body with
    | some [base64, subtype] => do
      let bytes ← Base64.decode? base64
      match ← Hexadecimal.decode? subtype with
      | [byte] => some (.binary byte bytes)
      | _ => none
    | _ => none
  | uuid => (body.text?.bind uuidBytes?).map (.binary 4)
  | code => body.text?.map .code
  | timestamp =>
    match record? ["t", "i"] body with
    | some [seconds, increment] => do
      let t ← uint32? seconds
      let i ← uint32? increment
      some (.timestamp t i)
    | _ => none
  | dateTime => (dateBody? body).map .dateTime
  | minKey => if body.integer? = some 1 then some .minKey else none
  | maxKey => if body.integer? = some 1 then some .maxKey else none
  | dbPointer =>
    match record? ["$ref", "$id"] body with
    | some [collection, id] => do
      let name ← collection.text?
      let identifier ← objectIdBody? id
      some (.dbPointer name identifier)
    | _ => none
  | undefined =>
    match body with
    | .bool true => some .undefined
    | _ => none

end Wrapper

end Criteria
