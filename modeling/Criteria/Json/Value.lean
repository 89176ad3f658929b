import Criteria.Keyed
import Criteria.Number.Double

namespace Criteria

/-! ## JSON values -/

/-- A JSON number: a whole number of up to 64 bits, or a double. -/
inductive JsonNumber
  | integer (n : Int)
  | real (d : Double)
deriving DecidableEq, Repr

/-- A JSON value whose object members stand in order under distinct names. -/
inductive Json
  | null
  | bool (b : Bool)
  | number (n : JsonNumber)
  | string (s : String)
  | array (items : List Json)
  | object (members : List (String × Json))

namespace Json

/-- The members of an object whose names are exactly the given ones, in the
order asked for. -/
def membersExactly? (names : List String) (members : List (String × Json)) :
    Option (List Json) :=
  if members.length = names.length then names.mapM (Keyed.get? · members) else none

def text? : Json → Option String
  | string s => some s
  | _ => none

def integer? : Json → Option Int
  | number (.integer n) => some n
  | _ => none

end Json

end Criteria
