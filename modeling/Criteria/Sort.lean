import Criteria.Coercion

namespace Criteria.Sort

/-! ## Sort orders -/

/-- Whether an indicator asks for descending order: zero or minus one in any
kind of number. -/
def isDescending : Value → Bool
  | .int32 n => n == 0 || n == -1
  | .int64 n => n == 0 || n == -1
  | .double d => d.equalsInt 0 || d.equalsInt (-1)
  | _ => false

def direction (indicator : Value) : Value :=
  .int32 (if isDescending indicator then -1 else 1)

/-- The name of a sort key; the identity always takes the store's name. -/
def outputName (name : String) : String :=
  if name = identityAlias then identityField else name

def normalize (fields : Document) : Document :=
  Keyed.ofList (fields.map fun entry => (outputName entry.1, direction entry.2))

/-- The sort that a value asks for; whatever is no document asks for none. -/
def ofValue : Value → Reported Document
  | .document fields => pure (normalize fields)
  | .null => pure []
  | other => .report (.nonDocumentSort other.kind) []

end Criteria.Sort
