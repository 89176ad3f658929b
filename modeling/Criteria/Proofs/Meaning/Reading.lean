import Criteria.Query
import Criteria.Proofs.Clause.Emission

/-!
# What criteria state and what a query asks

Fix which atoms hold: an atom is a field, an operator and its operand. `Store`
reads a query as the store does. `Stated` reads a clause document before any of
it is translated, spelling by spelling. Both list the conditions of a level under
the names that carry them, so that a reading may drop some of two conditions under
one name.
-/

namespace Criteria.Meaning

/-- Which atoms hold: a field, an operator and the operand. -/
abbrev Truth := String → String → Value → Prop

def equalityKey : String := "$eq"

def negationKey : String := "$not"

def combine : LogicalOperator → List Prop → Prop
  | .or, elements => ∃ element ∈ elements, element
  | .and, elements => ∀ element ∈ elements, element
  | .nor, elements => ¬∃ element ∈ elements, element

def All (conditions : Keyed Prop) : Prop :=
  ∀ condition ∈ conditions, condition.2

/-! ## The store's reading of a query -/

namespace Store

mutual

/-- What the store asks of a field by a value: the operators of a document, the
match of a regular expression, or equality. -/
def value (truth : Truth) (field : String) : Value → Prop
  | .document fields => All (operators truth field fields)
  | .regex r => truth field regexKey (.regex r)
  | operand => truth field equalityKey operand

def operators (truth : Truth) (field : String) : List (String × Value) → Keyed Prop
  | [] => []
  | (key, operand) :: rest =>
    (key, operator truth field key operand) :: operators truth field rest

/-- What the store asks of a field by one operator. Negation applies to a document
and to a regular expression, and every other operator makes an atom. -/
def operator (truth : Truth) (field key : String) : Value → Prop
  | .document fields =>
    if key = negationKey then ¬All (operators truth field fields)
    else truth field key (.document fields)
  | .regex r =>
    if key = negationKey then ¬truth field regexKey (.regex r)
    else truth field key (.regex r)
  | operand => truth field key operand

end

/-- The logical operator that a key of a query names. -/
def logical? (key : String) : Option LogicalOperator :=
  if key = "$or" then some .or
  else if key = "$and" then some .and
  else if key = "$nor" then some .nor
  else none

mutual

/-- The conditions of a level of a query, each under its key. -/
def clause (truth : Truth) : List (String × Value) → Keyed Prop
  | [] => []
  | (key, operand) :: rest => (key, entry truth key operand) :: clause truth rest

def entry (truth : Truth) (key : String) : Value → Prop
  | .array items =>
    match logical? key with
    | some operator => combine operator (elements truth items)
    | none => value truth key (.array items)
  | operand => value truth key operand

def elements (truth : Truth) : List Value → List Prop
  | [] => []
  | item :: rest => element truth item :: elements truth rest

/-- What one element of a logical operator asks; whatever is no document asks
nothing. -/
def element (truth : Truth) : Value → Prop
  | .document fields => All (clause truth fields)
  | _ => True

end

end Store

/-! ## The reading of criteria -/

/-- How a level of criteria is read: the name of a field behind other names of its
level, and which of the conditions count. -/
structure Rule where
  fieldName : List String → String → String
  counted : Keyed Prop → Keyed Prop

def storeName (name : String) : String :=
  if name = identityAlias then identityField else name

/-- Every condition counts, and the general name of the identity always means the
identity. -/
def Rule.plain : Rule where
  fieldName _ name := storeName name
  counted conditions := conditions

/-- Of the conditions under one name the last counts, and the general name of the
identity means the identity only where that is not named before. -/
def Rule.lastWritten : Rule where
  fieldName := Clause.nameAfter
  counted := Keyed.ofList

namespace Stated

/-- The condition that a modifier states of a field, for an operand that is not
read further, under the operator that carries it. -/
def operand (context : Context) (truth : Truth) (field : String) (modifier : Modifier)
    (value : Value) : String × Prop :=
  let coerced := (Coercion.coerceOperand context field modifier value).value
  match modifier, value with
  | .not, .array _ => ("$nin", truth field "$nin" coerced)
  | .not, _ => ("$ne", truth field "$ne" coerced)
  | .text kind, _ =>
    match Pattern.operandText? value with
    | some text => (regexKey, truth field regexKey (.regex (Pattern.regex kind text)))
    | none => (kind.key, truth field kind.key coerced)
  | .comparison comparison, _ => (comparison.key, truth field comparison.key coerced)
  | .verbatim key, _ => (key, Store.operator truth field key coerced)

mutual

def expression (rule : Rule) (context : Context) (truth : Truth) (field : String) :
    Value → Prop
  | .document fields => All (rule.counted (modifiers rule context truth field fields))
  | .array items =>
    truth field membershipKey (Coercion.coerce context field (.array items)).value
  | scalar => Store.value truth field (Coercion.coerce context field scalar).value

/-- The conditions of a modifier map, each under the operator that carries it. -/
def modifiers (rule : Rule) (context : Context) (truth : Truth) (field : String) :
    List (String × Value) → Keyed Prop
  | [] => []
  | (key, value) :: rest =>
    modifier rule context truth field (Modifier.resolve key value) value ::
      modifiers rule context truth field rest

/-- The condition of one modifier. Only a negated document is read further. -/
def modifier (rule : Rule) (context : Context) (truth : Truth) (field : String)
    (spelled : Modifier) : Value → String × Prop
  | .document fields =>
    if spelled = .not then
      (negationKey, ¬All (rule.counted (modifiers rule context truth field fields)))
    else operand context truth field spelled (.document fields)
  | value => operand context truth field spelled value

end

/-- The conditions of a like group: each of its fields asks for one pattern. -/
def likeGroup (rule : Rule) (context : Context) (truth : Truth) : Value → Keyed Prop
  | .document fields =>
    fields.map fun entry =>
      (entry.1, expression rule context truth entry.1 (.document [("like", entry.2)]))
  | _ => []

mutual

/-- The conditions of a clause document behind some names of its level, each under
the name that carries it. -/
def clause (rule : Rule) (context : Context) (truth : Truth) (before : List String) :
    List (String × Value) → Keyed Prop
  | [] => []
  | (key, value) :: rest =>
    let here :=
      match ClauseKey.ofKey key with
      | .logical operator => logical rule context truth operator value
      | .likeGroup => likeGroup rule context truth value
      | .field =>
        let name := rule.fieldName before key
        [(name, expression rule context truth name value)]
    here ++ clause rule context truth (before ++ Keyed.keys here) rest

/-- The condition of a logical operator; it states nothing over anything but an
array. -/
def logical (rule : Rule) (context : Context) (truth : Truth)
    (operator : LogicalOperator) : Value → Keyed Prop
  | .array items => [(operator.key, combine operator (elements rule context truth items))]
  | _ => []

def elements (rule : Rule) (context : Context) (truth : Truth) : List Value → List Prop
  | [] => []
  | item :: rest => element rule context truth item :: elements rule context truth rest

/-- What one clause document states; whatever is no document states nothing. -/
def element (rule : Rule) (context : Context) (truth : Truth) : Value → Prop
  | .document fields => All (rule.counted (clause rule context truth [] fields))
  | _ => True

end

/-- The conditions of one entry of a clause document behind some names of its
level. -/
def entry (rule : Rule) (context : Context) (truth : Truth) (before : List String)
    (key : String) (value : Value) : Keyed Prop :=
  match ClauseKey.ofKey key with
  | .logical operator => logical rule context truth operator value
  | .likeGroup => likeGroup rule context truth value
  | .field =>
    let name := rule.fieldName before key
    [(name, expression rule context truth name value)]

theorem clause_cons (rule : Rule) (context : Context) (truth : Truth)
    (before : List String) (key : String) (value : Value) (rest : List (String × Value)) :
    clause rule context truth before ((key, value) :: rest) =
      entry rule context truth before key value ++
        clause rule context truth
          (before ++ Keyed.keys (entry rule context truth before key value)) rest := by
  rw [clause, entry]

end Stated

/-! ## Levels without collisions -/

/-- The key under which a modifier writes an operand. -/
def modifierKey (modifier : Modifier) (value : Value) : String :=
  match modifier, value with
  | .not, .document _ => negationKey
  | .not, .array _ => "$nin"
  | .not, _ => "$ne"
  | .text kind, _ => if (Pattern.operandText? value).isSome then regexKey else kind.key
  | .comparison comparison, _ => comparison.key
  | .verbatim key, _ => key

def modifierKeys (fields : Document) : List String :=
  fields.map fun entry => modifierKey (Modifier.resolve entry.1 entry.2) entry.2

mutual

/-- Whether every modifier map of a value that is read writes distinct keys. -/
def distinctExpression : Value → Bool
  | .document fields =>
    decide (modifierKeys fields).Nodup && distinctOperands fields
  | _ => true

def distinctOperands : List (String × Value) → Bool
  | [] => true
  | (key, value) :: rest =>
    (if Modifier.resolve key value = .not then distinctExpression value else true) &&
      distinctOperands rest

end

def entryNames (key : String) (value : Value) : List String :=
  match ClauseKey.ofKey key, value with
  | .logical operator, .array _ => [operator.key]
  | .likeGroup, .document fields => Keyed.keys fields
  | .field, _ => [storeName key]
  | _, _ => []

def outputNames (fields : Document) : List String :=
  fields.flatMap fun entry => entryNames entry.1 entry.2

mutual

/-- Whether every level of a clause document writes distinct names, and every
modifier map in it distinct keys. -/
def distinctElement : Value → Bool
  | .document fields =>
    decide (outputNames fields).Nodup && distinctEntries fields
  | _ => true

def distinctEntries : List (String × Value) → Bool
  | [] => true
  | (key, value) :: rest =>
    (match ClauseKey.ofKey key with
      | .logical _ => distinctLogical value
      | .likeGroup => true
      | .field => distinctExpression value) && distinctEntries rest

def distinctLogical : Value → Bool
  | .array items => distinctElements items
  | _ => true

def distinctElements : List Value → Bool
  | [] => true
  | item :: rest => distinctElement item && distinctElements rest

end

end Criteria.Meaning
