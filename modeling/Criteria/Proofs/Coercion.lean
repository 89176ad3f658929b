import Criteria.Coercion
import Criteria.Clause.Reading
import Criteria.Pattern

/-!
# What coercion may change

Only strings, and the strings inside arrays, are ever changed. A string becomes
another scalar or stays the string that it is, an array stays an array, and
every other value stays as it is. A second coercion under the same field changes
nothing.
-/

namespace Criteria

/-- Whether some options make an identifier of a string under a name. -/
abbrev Options.Identifies (options : Options) (name text : String) : Prop :=
  options.objectIdIdentity = true ∧ name = identityField ∧
    (ObjectId.ofText? text).isSome = true

namespace Coercion

/-! ## Identities -/

mutual

theorem toObjectId_toObjectId : ∀ value : Value,
    toObjectId (toObjectId value) = toObjectId value
  | .string text => by
      cases read : ObjectId.ofText? text with
      | none => simp [toObjectId, read]
      | some id => simp [toObjectId, read]
  | .array items => by
      rw [toObjectId, toObjectId, toObjectIds_toObjectIds items]
  | .double _ | .document _ | .binary _ _ | .undefined | .objectId _ | .boolean _
  | .dateTime _ | .null | .regex _ | .dbPointer _ _ | .code _ | .symbol _
  | .codeWithScope _ _ | .int32 _ | .timestamp _ _ | .int64 _ | .decimal128 _
  | .maxKey | .minKey => rfl

theorem toObjectIds_toObjectIds : ∀ items : List Value,
    toObjectIds (toObjectIds items) = toObjectIds items
  | [] => rfl
  | item :: rest => by
      rw [toObjectIds, toObjectIds, toObjectId_toObjectId item, toObjectIds_toObjectIds rest]

end

/-- Identifiers come first: the schema does not see a string that becomes one. -/
theorem coerce_string_of_identifies {field text : String} (context : Context)
    (identified : context.options.Identifies field text) :
    coerce context field (.string text) = pure (toObjectId (.string text)) := by
  obtain ⟨asked, named, isIdentifier⟩ := identified
  obtain ⟨id, read⟩ := Option.isSome_iff_exists.1 isIdentifier
  rw [coerce, if_pos ⟨asked, named⟩, toObjectId, read]

/-- Any other string is read under the declared type of its field. -/
theorem coerce_string_of_not_identifies {field text : String} (context : Context)
    (unidentified : ¬context.options.Identifies field text) :
    coerce context field (.string text) = typed context field text := by
  rw [coerce]
  by_cases asked : context.options.objectIdIdentity = true ∧ field = identityField
  · cases read : ObjectId.ofText? text with
    | none => rw [if_pos asked, toObjectId, read]
    | some id =>
        have isIdentifier : (ObjectId.ofText? text).isSome = true := by
          rw [read, Option.isSome_some]
        exact absurd ⟨asked.1, asked.2, isIdentifier⟩ unidentified
  · rw [if_neg asked]

/-- The items of an array under a field, with identifiers if they are asked
for. -/
def identifiedItems (context : Context) (field : String) (items : List Value) : List Value :=
  if context.options.objectIdIdentity ∧ field = identityField then toObjectIds items else items

theorem identifiedItems_identifiedItems (context : Context) (field : String)
    (items : List Value) :
    identifiedItems context field (identifiedItems context field items) =
      identifiedItems context field items := by
  unfold identifiedItems
  split
  · exact toObjectIds_toObjectIds items
  · rfl

/-! ## The three shapes of a coerced value -/

/-- What may stand in the place of a string. -/
inductive FromText (text : String) : Value → Prop
  | kept : FromText text (.string text)
  | objectId (id : ObjectId) : FromText text (.objectId id)
  | int32 (n : Int32) : FromText text (.int32 n)
  | int64 (n : Int64) : FromText text (.int64 n)
  | double (d : Double) : FromText text (.double d)
  | boolean (b : Bool) : FromText text (.boolean b)
  | dateTime (milliseconds : Int64) : FromText text (.dateTime milliseconds)

theorem ofInt?_fromText (text : String) {n : Int} {value : Value}
    (fits : Value.ofInt? n = some value) : FromText text value := by
  unfold Value.ofInt? at fits
  split at fits
  · cases fits
    exact .int32 _
  · split at fits
    · cases fits
      exact .int64 _
    · cases fits

theorem wholeValue_fromText (text : String) (negative : Bool) (digits : List Char) :
    FromText text (wholeValue negative digits) := by
  rw [wholeValue]
  cases fits : Value.ofInt? (Digit.signed negative (Digit.number digits)) with
  | none => exact .double _
  | some value => exact ofInt?_fromText text fits

theorem numberOr_fromText (context : Context) (field : String) (type : FieldType)
    (text : String) (read : Option Value)
    (number : ∀ value, read = some value → FromText text value) :
    FromText text (numberOr context field type text read).value := by
  cases read with
  | some value => exact number value rfl
  | none =>
      obtain ⟨schema, fallback, identity⟩ := context
      cases fallback with
      | nan => exact .double _
      | keepText => exact .kept

theorem dateOr_fromText (field : String) (type : FieldType) (text : String)
    (read : Option Int) : FromText text (dateOr field type text read).value := by
  cases read with
  | some milliseconds => exact .dateTime _
  | none => exact .kept

theorem calendarValue_fromText (field text : String) :
    FromText text (calendarValue field text).value := by
  unfold calendarValue
  split
  · exact dateOr_fromText field .date text _
  · split
    · exact dateOr_fromText field .date text _
    · exact .kept

theorem booleanValue_fromText (text : String) : FromText text (booleanValue text) := by
  unfold booleanValue
  split
  · exact .boolean false
  · split
    · exact .boolean true
    · exact .kept

/-- Whatever its field's type is, a string becomes a scalar or stays. -/
theorem typed_fromText (context : Context) (field text : String) :
    FromText text (typed context field text).value := by
  unfold typed
  split
  · refine numberOr_fromText context field .integer text _ ?_
    intro value number
    obtain ⟨front, -, rfl⟩ := Option.map_eq_some_iff.1 number
    exact wholeValue_fromText text front.1 front.2
  · refine numberOr_fromText context field .float text _ ?_
    intro value number
    obtain ⟨real, -, rfl⟩ := Option.map_eq_some_iff.1 number
    exact .double real
  · exact calendarValue_fromText field text
  · exact dateOr_fromText field .datetime text _
  · exact booleanValue_fromText text
  · exact .kept

/-- A string becomes a scalar that is no pattern, or stays the string that it
is. -/
theorem coerce_string_fromText (context : Context) (field text : String) :
    FromText text (coerce context field (.string text)).value := by
  unfold coerce
  split
  · cases read : ObjectId.ofText? text with
    | none =>
        simp only [toObjectId, read]
        exact typed_fromText context field text
    | some id =>
        simp only [toObjectId, read]
        exact .objectId id
  · exact typed_fromText context field text

theorem coerce_array (context : Context) (field : String) (items : List Value) :
    coerce context field (.array items) =
      pure (.array (identifiedItems context field items)) := by
  unfold coerce identifiedItems
  split <;> rfl

/-- Neither a string nor an array. -/
def Fixed : Value → Prop
  | .string _ => False
  | .array _ => False
  | _ => True

/-- Coercion tells three kinds of values apart. -/
theorem string_or_array_or_fixed (value : Value) :
    (∃ text, value = .string text) ∨ (∃ items, value = .array items) ∨ Fixed value := by
  cases value with
  | string text => exact Or.inl ⟨text, rfl⟩
  | array items => exact Or.inr (Or.inl ⟨items, rfl⟩)
  | _ => exact Or.inr (Or.inr trivial)

theorem coerce_of_fixed (context : Context) (field : String) {value : Value}
    (fixed : Fixed value) : coerce context field value = pure value := by
  cases value with
  | string text => exact fixed.elim
  | array items => exact fixed.elim
  | _ => simp [coerce, toObjectId]

theorem coerce_regex (context : Context) (field : String) (r : Regex) :
    coerce context field (.regex r) = pure (.regex r) := by
  have fixed : Fixed (.regex r) := trivial
  exact coerce_of_fixed context field fixed

/-- A value that came from a string is that string or is not changed any
more. -/
theorem FromText.eq_string_or_fixed {text : String} {value : Value}
    (fromText : FromText text value) : value = .string text ∨ Fixed value := by
  cases fromText with
  | kept => exact Or.inl rfl
  | _ => exact Or.inr trivial

/-! ## Coercion settles -/

theorem coerce_coerce (context : Context) (field : String) (value : Value) :
    (coerce context field (coerce context field value).value).value =
      (coerce context field value).value := by
  rcases string_or_array_or_fixed value with ⟨text, rfl⟩ | ⟨items, rfl⟩ | fixed
  · rcases (coerce_string_fromText context field text).eq_string_or_fixed with kept | fixed
    · rw [kept, kept]
    · rw [coerce_of_fixed context field fixed, Reported.value_pure]
  · rw [coerce_array, Reported.value_pure, coerce_array, Reported.value_pure,
      identifiedItems_identifiedItems]
  · rw [coerce_of_fixed context field fixed, Reported.value_pure,
      coerce_of_fixed context field fixed, Reported.value_pure]

theorem coerceOperand_coerceOperand (context : Context) (field : String)
    (modifier : Modifier) (value : Value) :
    (coerceOperand context field modifier
        (coerceOperand context field modifier value).value).value =
      (coerceOperand context field modifier value).value := by
  unfold coerceOperand
  split
  · rfl
  · exact coerce_coerce context field value

theorem coerceOperand_of_ne {modifier : Modifier} (other : modifier ≠ .verbatim "$ne")
    (context : Context) (field : String) (value : Value) :
    coerceOperand context field modifier value = coerce context field value :=
  if_neg other

/-- Coercion makes no array out of anything else. -/
theorem coerce_ne_array {value : Value} (notArray : ∀ items, value ≠ .array items)
    (context : Context) (field : String) (items : List Value) :
    (coerce context field value).value ≠ .array items := by
  rcases string_or_array_or_fixed value with ⟨text, rfl⟩ | ⟨members, rfl⟩ | fixed
  · intro array
    have scalar := coerce_string_fromText context field text
    rw [array] at scalar
    cases scalar
  · exact absurd rfl (notArray members)
  · rw [coerce_of_fixed context field fixed]
    exact notArray items

/-- Coercion makes no document out of anything else. -/
theorem coerce_ne_document {value : Value} (notDocument : ∀ fields, value ≠ .document fields)
    (context : Context) (field : String) (fields : Document) :
    (coerce context field value).value ≠ .document fields := by
  rcases string_or_array_or_fixed value with ⟨text, rfl⟩ | ⟨members, rfl⟩ | fixed
  · intro document
    have scalar := coerce_string_fromText context field text
    rw [document] at scalar
    cases scalar
  · rw [coerce_array]
    exact Value.noConfusion
  · rw [coerce_of_fixed context field fixed]
    exact notDocument fields

/-- Coercion makes no string out of anything else. -/
theorem isString_coerce {value : Value} (notString : value.isString = false)
    (context : Context) (field : String) :
    (coerce context field value).value.isString = false := by
  rcases string_or_array_or_fixed value with ⟨text, rfl⟩ | ⟨items, rfl⟩ | fixed
  · exact absurd notString Bool.noConfusion
  · rw [coerce_array]
    rfl
  · rw [coerce_of_fixed context field fixed]
    exact notString

theorem isString_coerceOperand {value : Value} (notString : value.isString = false)
    (context : Context) (field : String) (modifier : Modifier) :
    (coerceOperand context field modifier value).value.isString = false := by
  unfold coerceOperand
  split
  · exact notString
  · exact isString_coerce notString context field

/-- Coercion gives no text to an operand that has none. -/
theorem operandText?_coerce {value : Value} (noText : Pattern.operandText? value = none)
    (context : Context) (field : String) :
    Pattern.operandText? (coerce context field value).value = none := by
  rcases string_or_array_or_fixed value with ⟨text, rfl⟩ | ⟨items, rfl⟩ | fixed
  · cases noText
  · rw [coerce_array]
    rfl
  · rw [coerce_of_fixed context field fixed]
    exact noText

/-! ## Places of a value

A value is asked for by itself or by a modifier. -/

/-- A value under a field, in one of its places. -/
def coerceAt (context : Context) (field : String) : Option Modifier → Value → Reported Value
  | none, value => coerce context field value
  | some modifier, value => coerceOperand context field modifier value

/-- Whether a string follows the schema in its place: anywhere but under the store's own
inequality, unless an identifier is made of it. -/
def FollowsSchema (options : Options) (field text : String) (place : Option Modifier) : Prop :=
  place ≠ some (.verbatim "$ne") ∧ ¬options.Identifies field text

theorem coerceAt_of_ne {place : Option Modifier} (other : place ≠ some (.verbatim "$ne"))
    (context : Context) (field : String) (value : Value) :
    coerceAt context field place value = coerce context field value := by
  cases place with
  | none => rfl
  | some modifier =>
      exact coerceOperand_of_ne (fun same => other (congrArg some same)) context field value

/-- A string that follows the schema is converted as its declared type says. -/
theorem coerceAt_of_followsSchema {context : Context} {field text : String}
    {place : Option Modifier} (follows : FollowsSchema context.options field text place) :
    coerceAt context field place (.string text) = typed context field text := by
  rw [coerceAt_of_ne follows.1, coerce_string_of_not_identifies context follows.2]

end Coercion

end Criteria
