import Criteria.Clause
import Criteria.Coercion.Date
import Criteria.Coercion.Number
import Criteria.Diagnostic
import Criteria.Options

namespace Criteria

/-! ## Values under declared types

Only strings are converted, to what the schema declares for their field. -/

/-- What steers a query beside the criteria. -/
structure Context where
  schema : Schema
  options : Options

/-- The store's name of the identity. -/
def identityField : String := "_id"

/-- The general name of the identity. -/
def identityAlias : String := "id"

namespace Coercion

/-! ### Identities -/

mutual

/-- A string of twenty-four hexadecimal digits becomes an identifier, also
inside arrays. -/
def toObjectId : Value → Value
  | .string s =>
    match ObjectId.ofText? s with
    | some id => .objectId id
    | none => .string s
  | .array items => .array (toObjectIds items)
  | value => value

def toObjectIds : List Value → List Value
  | [] => []
  | item :: rest => toObjectId item :: toObjectIds rest

end

/-! ### Strings -/

def dateOf (milliseconds : Int) : Value :=
  .dateTime (Int64.ofInt milliseconds)

def numberOr (context : Context) (field : String) (type : FieldType) (text : String)
    (read : Option Value) : Reported Value :=
  match read with
  | some value => pure value
  | none =>
    .report (.unparsableNumber field type text) <|
      match context.options.numericFallback with
      | .nan => .double .nan
      | .keepText => .string text

def dateOr (field : String) (type : FieldType) (text : String) (read : Option Int) :
    Reported Value :=
  match read with
  | some milliseconds => pure (dateOf milliseconds)
  | none => .report (.unparsableDate field type text) (.string text)

/-- A string as a date: the shape of an instant must hold a real one, the shape
of a date is counted on to one, and other strings are no dates. -/
def calendarValue (field text : String) : Reported Value :=
  if isInstant text then dateOr field .date text (instant? text)
  else
    match calendarDate? text with
    | some date => dateOr field .date text (rolledMidnight? date)
    | none => pure (.string text)

def booleanValue (text : String) : Value :=
  if text = "false" then .boolean false
  else if text = "true" then .boolean true
  else .string text

def typed (context : Context) (field text : String) : Reported Value :=
  match context.schema.type? field with
  | some .integer => numberOr context field .integer text (integer? text)
  | some .float => numberOr context field .float text ((float? text).map .double)
  | some .date => calendarValue field text
  | some .datetime => dateOr field .datetime text (instant? text)
  | some .boolean => pure (booleanValue text)
  | _ => pure (.string text)

/-- A value under a field. Identities are converted first, if asked for, and
what is still a string then follows the schema. -/
def coerce (context : Context) (field : String) (value : Value) : Reported Value :=
  let identified :=
    if context.options.objectIdIdentity ∧ field = identityField then toObjectId value
    else value
  match identified with
  | .string text => typed context field text
  | other => pure other

/-- The operand of a modifier under a field. The store's own inequality takes its
operand as it is. -/
def coerceOperand (context : Context) (field : String) (modifier : Modifier)
    (value : Value) : Reported Value :=
  if modifier = .verbatim "$ne" then pure value else coerce context field value

end Coercion

end Criteria
