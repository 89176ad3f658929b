import Criteria.ExtendedJson.Wrapper
import Criteria.Json.Reader

namespace Criteria.Value

/-! ## From Extended JSON to values

Whole numbers take the smaller integer kind that holds them and become doubles
beyond 64 bits. Objects without a reserved key are documents. -/

def scopeKey : String := "$scope"

def ofNumber : JsonNumber → Value
  | .integer n => (ofInt? n).getD (double (Double.ofInt n))
  | .real d => double d

/-- Code with the scope found beside it; no other member may stand there. -/
def codeOf? (members : List (String × Json)) (scope : Option Document) : Option Value := do
  let allowed := members.all fun entry => entry.1 == Wrapper.code.key || entry.1 == scopeKey
  let body ← Keyed.get? Wrapper.code.key members
  let source ← body.text?
  if !allowed then none
  else
    match scope with
    | some fields => some (codeWithScope source fields)
    | none => some (code source)

mutual

/-- The value of a JSON value, if every reserved key stands in its wrapper. -/
def ofJson? : Json → Option Value
  | .null => some null
  | .bool b => some (boolean b)
  | .number n => some (ofNumber n)
  | .string s => some (string s)
  | .array items => (itemsOf? items).map array
  | .object members =>
    match Wrapper.of? members with
    | none => (fieldsOf? members).map document
    | some .code => (scopeOf? members).bind (codeOf? members)
    | some wrapper =>
      match members with
      | [(_, body)] => wrapper.value? body
      | _ => none

def itemsOf? : List Json → Option (List Value)
  | [] => some []
  | head :: tail => do
    let first ← ofJson? head
    let rest ← itemsOf? tail
    pure (first :: rest)

def fieldsOf? : List (String × Json) → Option (List (String × Value))
  | [] => some []
  | (name, json) :: tail => do
    let first ← ofJson? json
    let rest ← fieldsOf? tail
    pure ((name, first) :: rest)

/-- The scope among the members beside some code; its own fields are read as
values, but the scope itself is always a document. -/
def scopeOf? : List (String × Json) → Option (Option (List (String × Value)))
  | [] => some none
  | (name, json) :: tail => if name = scopeKey then scopeBody? json else scopeOf? tail

/-- The scope that a member holds; `null` is none. -/
def scopeBody? : Json → Option (Option (List (String × Value)))
  | .null => some none
  | .object members => (fieldsOf? members).map some
  | _ => none

end

end Criteria.Value
