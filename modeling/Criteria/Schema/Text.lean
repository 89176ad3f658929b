import Criteria.Json.Printer
import Criteria.Json.Reader
import Criteria.Schema

namespace Criteria.Schema

/-! ## Schemas as JSON text

A schema is an object from field names to descriptors, and a descriptor is an
object whose member `type` names the type. -/

/-- The member of a descriptor that names the type. -/
def typeKey : String := "type"

def toJson (schema : Schema) : Json :=
  .object (schema.entries.map fun entry =>
    (entry.1, .object [(typeKey, .string entry.2.text)]))

def text (schema : Schema) : String :=
  schema.toJson.compactText

/-! ### Reading

Attributes of a descriptor other than its type are skipped unread, so that only
the grammar binds them. -/

def named? (members : List (List JsonPiece × JsonTerm)) :
    Option (List (String × JsonTerm)) :=
  members.mapM fun member => (JsonPiece.string? member.1).map (·, member.2)

def typeName? : JsonTerm → Option FieldType
  | .string pieces => (JsonPiece.string? pieces).map FieldType.ofText
  | _ => none

/-- The type in a descriptor, which must name it exactly once. A list of one
name is a descriptor too. -/
def descriptor? : JsonTerm → Option FieldType
  | .object members => do
    let attributes ← named? members
    match attributes.filter fun entry => entry.1 == typeKey with
    | [(_, name)] => typeName? name
    | _ => none
  | .array [name] => typeName? name
  | _ => none

def declarations? : JsonTerm → Option (List (String × FieldType))
  | .object members => do
    let descriptors ← named? members
    descriptors.mapM fun entry => (descriptor? entry.2).map (entry.1, ·)
  | _ => none

def rejection : String := "schema deserialization error"

def ofText? (text : String) : Option Schema :=
  ((JsonTerm.ofText? text.length text).bind declarations?).map ofList

end Criteria.Schema
