import Criteria.Text.Hexadecimal

namespace Criteria

/-! ## Object identifiers -/

/-- An identifier of twelve bytes. -/
structure ObjectId where
  bytes : List UInt8
  length_eq : bytes.length = 12
deriving DecidableEq

namespace ObjectId

def ofBytes? (bytes : List UInt8) : Option ObjectId :=
  if twelve : bytes.length = 12 then some ⟨bytes, twelve⟩ else none

/-- The identifier that twenty-four hexadecimal digits of either case spell. -/
def ofText? (text : String) : Option ObjectId :=
  (Hexadecimal.decode? text).bind ofBytes?

def text (id : ObjectId) : String :=
  Hexadecimal.encode id.bytes

end ObjectId

end Criteria
