import Criteria.Clause
import Criteria.Diagnostic
import Criteria.Text.Lowercase

namespace Criteria

/-! ## From documents to clauses

Keys are compared in lower case. A key that no spelling claims is taken
verbatim. -/

/-! ### Spellings -/

/-- What a key of a clause document announces. -/
inductive ClauseKey
  | logical (operator : LogicalOperator)
  | likeGroup
  | field
deriving DecidableEq, Repr

def ClauseKey.ofLowercase (key : String) : ClauseKey :=
  if key = "or" ∨ key = "$or" then logical .or
  else if key = "$and" then logical .and
  else if key = "$nor" then logical .nor
  else if key = "like" then likeGroup
  else field

def ClauseKey.ofKey (key : String) : ClauseKey :=
  ofLowercase (Text.lowercase key)

def Modifier.ofLowercase? (key : String) : Option Modifier :=
  if key = "!" ∨ key = "not" then some not
  else if key = "contains" then some (text .contains)
  else if key = "like" then some (text .like)
  else if key = "startswith" then some (text .startsWith)
  else if key = "endswith" then some (text .endsWith)
  else if key = "<" ∨ key = "lessthan" ∨ key = "lt" then some (comparison .lessThan)
  else if key = "<=" ∨ key = "lessthanorequal" ∨ key = "lte" then
    some (comparison .lessThanOrEqual)
  else if key = ">" ∨ key = "greaterthan" ∨ key = "gt" then some (comparison .greaterThan)
  else if key = ">=" ∨ key = "greaterthanorequal" ∨ key = "gte" then
    some (comparison .greaterThanOrEqual)
  else none

def Value.isString : Value → Bool
  | string _ => true
  | _ => false

/-- The modifier that a key asks for. A spelling of `contains` counts only before
a string, since the store has arrays contain things too. -/
def Modifier.resolve (key : String) (operand : Value) : Modifier :=
  match ofLowercase? (Text.lowercase key) with
  | some (text .contains) => if operand.isString then text .contains else verbatim key
  | some modifier => modifier
  | none => verbatim key

/-! ### Expressions -/

mutual

/-- What a value asks of a field: a document holds modifiers, an array holds the
members to choose from, and all else is compared as it stands. -/
def Expression.ofValue : Value → Expression
  | .document fields => .modifiers (Operand.ofFields fields)
  | .array items => .membership items
  | value => .scalar value

/-- The operand of a modifier. Only a negated document is read further. -/
def Operand.ofValue (modifier : Modifier) : Value → Operand
  | .document fields =>
    if modifier = .not then .nested (.modifiers (Operand.ofFields fields))
    else .value (.document fields)
  | value => .value value

def Operand.ofFields : List (String × Value) → List (Modifier × Operand)
  | [] => []
  | (key, value) :: rest =>
    let modifier := Modifier.resolve key value
    (modifier, Operand.ofValue modifier value) :: Operand.ofFields rest

end

/-! ### Clauses -/

namespace Clause

/-- A field of a like group asks for one pattern, whatever its value is. -/
def likePattern (field : String × Value) : String × Expression :=
  (field.1, .modifiers [(.text .like, .value field.2)])

/-- The patterns of a like group; anything but a document is dropped. -/
def readLikeGroup : Value → Reported (Option Entry)
  | .document fields => pure (some (.likeGroup (fields.map likePattern)))
  | other => .report (.nonDocumentLikeGroup other.kind) none

mutual

def read : List (String × Value) → Reported (List Entry)
  | [] => pure []
  | (key, value) :: rest => do
    let entry ←
      match ClauseKey.ofKey key with
      | .logical operator => readLogical key operator value
      | .likeGroup => readLikeGroup value
      | .field => pure (some (.field key (Expression.ofValue value)))
    let more ← read rest
    pure (entry.toList ++ more)

/-- A logical operator over an array; over anything else it is dropped. -/
def readLogical (key : String) (operator : LogicalOperator) :
    Value → Reported (Option Entry)
  | .array items => do
    let clauses ← readElements items
    pure (some (.logical operator clauses))
  | other => .report (.droppedLogicalKey key other.kind) none

def readElements : List Value → Reported (List (List Entry))
  | [] => pure []
  | item :: rest => do
    let clause ← readElement item
    let more ← readElements rest
    pure (clause :: more)

/-- One clause of an array; whatever is not a document is an empty one. -/
def readElement : Value → Reported (List Entry)
  | .document fields => read fields
  | .null => pure []
  | other => .report (.nonDocumentClause other.kind) []

end

end Clause

end Criteria
