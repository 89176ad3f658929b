import Criteria.Coercion
import Criteria.Pattern

namespace Criteria

/-! ## From clauses to the store's operators

A clause becomes a document under construction: every entry writes names into
it, and a name written again keeps its place and takes the new value. -/

def regexKey : String := "$regex"

def membershipKey : String := "$in"

namespace Expression

/-- A document that is one regular expression alone is written as that
expression. -/
def unwrapRegex (fields : Document) : Value :=
  match fields with
  | [(key, .regex r)] => if key = regexKey then .regex r else .document fields
  | _ => .document fields

/-- The key and the value that a modifier writes for an operand. A negated array
excludes its members, any other negated value excludes itself, and a text match
becomes a pattern if its operand has a text. -/
def lowerValue (context : Context) (field : String) (modifier : Modifier)
    (value : Value) : Reported (String × Value) :=
  match modifier with
  | .not => do
    match ← Coercion.coerceOperand context field modifier value with
    | .array items => pure ("$nin", .array items)
    | other => pure ("$ne", other)
  | .text kind =>
    match Pattern.operandText? value with
    | some text => pure (regexKey, .regex (Pattern.regex kind text))
    | none => do
      let coerced ← Coercion.coerceOperand context field modifier value
      pure (modifier.key, coerced)
  | _ => do
    let coerced ← Coercion.coerceOperand context field modifier value
    pure (modifier.key, coerced)

mutual

/-- What is asked of a field, in the store's operators. -/
def lower (context : Context) (field : String) : Expression → Reported Value
  | .scalar value => Coercion.coerce context field value
  | .membership values => do
    let members ← Coercion.coerce context field (.array values)
    pure (.document [(membershipKey, members)])
  | .modifiers entries => do
    let fields ← lowerModifiers context field entries []
    pure (unwrapRegex fields)

def lowerOperand (context : Context) (field : String) (modifier : Modifier) :
    Operand → Reported (String × Value)
  | .value value => lowerValue context field modifier value
  | .nested expression => do
    let inner ← lower context field expression
    pure (modifier.key, inner)

def lowerModifiers (context : Context) (field : String) :
    List (Modifier × Operand) → Document → Reported Document
  | [], written => pure written
  | (modifier, operand) :: rest, written => do
    let (key, value) ← lowerOperand context field modifier operand
    lowerModifiers context field rest (Keyed.insert written key value)

end

end Expression

namespace Clause

/-- Writes the patterns of a like group under their names as they stand. -/
def lowerPatterns (context : Context) :
    List (String × Expression) → Document → Reported Document
  | [], written => pure written
  | (name, expression) :: rest, written => do
    let value ← expression.lower context name
    lowerPatterns context rest (Keyed.insert written name value)

/-- The name under which a field is written: the first identity of a level takes
the store's name for it. -/
def outputName (written : Document) (name : String) : String :=
  if name = identityAlias ∧ !Keyed.contains written identityField then identityField
  else name

mutual

def lowerEntries (context : Context) : List Entry → Document → Reported Document
  | [], written => pure written
  | entry :: rest, written => do
    let more ← lowerEntry context entry written
    lowerEntries context rest more

def lowerEntry (context : Context) : Entry → Document → Reported Document
  | .field name expression, written => do
    let output := outputName written name
    let value ← expression.lower context output
    pure (Keyed.insert written output value)
  | .logical operator clauses, written => do
    let documents ← lowerClauses context clauses
    pure (Keyed.insert written operator.key (.array documents))
  | .likeGroup patterns, written => lowerPatterns context patterns written

def lowerClauses (context : Context) : List (List Entry) → Reported (List Value)
  | [] => pure []
  | clause :: rest => do
    let fields ← lowerEntries context clause []
    let more ← lowerClauses context rest
    pure (.document fields :: more)

end

def lower (context : Context) (clause : Clause) : Reported Document :=
  lowerEntries context clause []

end Clause

end Criteria
