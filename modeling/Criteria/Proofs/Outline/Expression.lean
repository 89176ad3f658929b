import Criteria.Proofs.Clause.Emission
import Criteria.Proofs.Clause.Spelling

/-!
# What texts cannot change in an expression

The outline of a value forgets what its leaves hold. Two values that differ in the
contents of strings only are the same once their strings are blank, and what is
asked of a field by the one has the outline of what is asked by the other.
-/

namespace Criteria

/-- A value without the contents of its leaves. Of these only regular expressions
are told apart, since one that stands alone replaces the document around it. The
scope of a code stands in the place of the code. -/
inductive Outline
  | leaf
  | pattern
  | array (items : List Outline)
  | document (fields : List (String × Outline))
  | scope (fields : List (String × Outline))

namespace Value

/-! ## Blank strings -/

mutual

/-- A value with the contents of all its strings removed. -/
def blank : Value → Value
  | .string _ => .string ""
  | .document fields => .document (blankFields fields)
  | .array items => .array (blankItems items)
  | .codeWithScope source scope => .codeWithScope source (blankFields scope)
  | value => value

def blankFields : List (String × Value) → List (String × Value)
  | [] => []
  | (key, value) :: rest => (key, blank value) :: blankFields rest

def blankItems : List Value → List Value
  | [] => []
  | item :: rest => blank item :: blankItems rest

end

theorem isString_blank (value : Value) : value.blank.isString = value.isString := by
  cases value <;> rfl

theorem exclusionKey_blank (value : Value) :
    Expression.exclusionKey value.blank = Expression.exclusionKey value := by
  cases value <;> rfl

theorem isSome_operandText?_blank (value : Value) :
    (Pattern.operandText? value.blank).isSome = (Pattern.operandText? value).isSome := by
  cases value <;> rfl

theorem resolve_blank (key : String) (value : Value) :
    Modifier.resolve key value.blank = Modifier.resolve key value := by
  unfold Modifier.resolve
  rw [isString_blank]

/-! ## Outlines -/

mutual

def outline : Value → Outline
  | .document fields => .document (outlineFields fields)
  | .array items => .array (outlineItems items)
  | .codeWithScope _ scope => .scope (outlineFields scope)
  | .regex _ => .pattern
  | _ => .leaf

def outlineFields : List (String × Value) → List (String × Outline)
  | [] => []
  | (key, value) :: rest => (key, outline value) :: outlineFields rest

def outlineItems : List Value → List Outline
  | [] => []
  | item :: rest => outline item :: outlineItems rest

end

def outlineEntry (entry : String × Value) : String × Outline :=
  (entry.1, entry.2.outline)

theorem outlineFields_cons (entry : String × Value) (rest : Document) :
    outlineFields (entry :: rest) = outlineEntry entry :: outlineFields rest := rfl

theorem outlineFields_eq_mapEntries (fields : Document) :
    outlineFields fields = Keyed.mapEntries (fun _ value => value.outline) fields := by
  induction fields with
  | nil => rfl
  | cons entry rest ih => exact congrArg (outlineEntry entry :: ·) ih

theorem keys_outlineFields (fields : Document) :
    Keyed.keys (outlineFields fields) = Keyed.keys fields := by
  rw [outlineFields_eq_mapEntries, Keyed.keys_mapEntries]

theorem outlineFields_append (first second : Document) :
    outlineFields (first ++ second) = outlineFields first ++ outlineFields second := by
  simp only [outlineFields_eq_mapEntries, Keyed.mapEntries_append]

theorem outlineFields_ofList (entries : List (String × Value)) :
    outlineFields (Keyed.ofList entries) = Keyed.ofList (outlineFields entries) := by
  simp only [outlineFields_eq_mapEntries, Keyed.mapEntries_ofList]

mutual

/-- Strings have no part in the outline. -/
theorem outline_blank : ∀ value : Value, value.blank.outline = value.outline
  | .document fields => congrArg Outline.document (outlineFields_blank fields)
  | .array items => congrArg Outline.array (outlineItems_blank items)
  | .codeWithScope _ scope => congrArg Outline.scope (outlineFields_blank scope)
  | .string _ | .double _ | .binary _ _ | .undefined | .objectId _ | .boolean _
  | .dateTime _ | .null | .regex _ | .dbPointer _ _ | .code _ | .symbol _ | .int32 _
  | .timestamp _ _ | .int64 _ | .decimal128 _ | .maxKey | .minKey => rfl

theorem outlineFields_blank : ∀ fields : List (String × Value),
    outlineFields (blankFields fields) = outlineFields fields
  | [] => rfl
  | (key, value) :: rest => by
      rw [blankFields, outlineFields, outlineFields, outline_blank value,
        outlineFields_blank rest]

theorem outlineItems_blank : ∀ items : List Value,
    outlineItems (blankItems items) = outlineItems items
  | [] => rfl
  | item :: rest => by
      rw [blankItems, outlineItems, outlineItems, outline_blank item, outlineItems_blank rest]

end

end Value

open Value

/-! ## Coercion -/

namespace Coercion

mutual

theorem outline_toObjectId : ∀ value : Value, (toObjectId value).outline = value.outline
  | .string text => by
      rw [toObjectId]
      split <;> rfl
  | .array items => congrArg Outline.array (outlineItems_toObjectIds items)
  | .document _ | .double _ | .binary _ _ | .undefined | .objectId _ | .boolean _
  | .dateTime _ | .null | .regex _ | .dbPointer _ _ | .code _ | .symbol _
  | .codeWithScope _ _ | .int32 _ | .timestamp _ _ | .int64 _ | .decimal128 _
  | .maxKey | .minKey => rfl

theorem outlineItems_toObjectIds : ∀ items : List Value,
    outlineItems (toObjectIds items) = outlineItems items
  | [] => rfl
  | item :: rest => by
      rw [toObjectIds, outlineItems, outlineItems, outline_toObjectId item,
        outlineItems_toObjectIds rest]

end

/-- What stands for a string is a leaf as the string is. -/
theorem FromText.outline {text : String} {value : Value} (fromText : FromText text value) :
    value.outline = .leaf := by
  cases fromText <;> rfl

/-- Coercion puts leaves in the place of leaves. -/
theorem outline_coerce (context : Context) (field : String) (value : Value) :
    (coerce context field value).value.outline = value.outline := by
  rcases string_or_array_or_fixed value with ⟨text, rfl⟩ | ⟨items, rfl⟩ | fixed
  · exact (coerce_string_fromText context field text).outline
  · rw [coerce_array, Reported.value_pure, identifiedItems]
    split
    · exact congrArg Outline.array (outlineItems_toObjectIds items)
    · rfl
  · rw [coerce_of_fixed context field fixed, Reported.value_pure]

theorem outline_coerceOperand (context : Context) (field : String) (modifier : Modifier)
    (value : Value) :
    (coerceOperand context field modifier value).value.outline = value.outline := by
  unfold coerceOperand
  split
  · rfl
  · exact outline_coerce context field value

end Coercion

/-! ## Lowering -/

namespace Expression

/-- The outline of a document that may be one regular expression alone. -/
def unwrapOutline (fields : List (String × Outline)) : Outline :=
  match fields with
  | [(key, .pattern)] => if key = regexKey then .pattern else .document fields
  | _ => .document fields

/-- The outline tells whether a document is one regular expression alone. -/
theorem outline_unwrapRegex (fields : Document) :
    (unwrapRegex fields).outline = unwrapOutline (outlineFields fields) := by
  cases fields with
  | nil => rfl
  | cons entry rest =>
      obtain ⟨key, value⟩ := entry
      cases rest with
      | cons next others => cases value <;> rfl
      | nil =>
          cases value with
          | regex r =>
              by_cases lone : key = regexKey
              · simp [unwrapRegex, unwrapOutline, outlineFields, outline, lone]
              · simp [unwrapRegex, unwrapOutline, outlineFields, outline, lone]
          | _ => rfl

variable (context : Context) (field : String)

/-- No text decides under which key an operand is written. -/
theorem outlineEntry_lowerValue (modifier : Modifier) (value : Value) :
    outlineEntry (lowerValue context field modifier value.blank).value =
      outlineEntry (lowerValue context field modifier value).value := by
  have coerced : (Coercion.coerceOperand context field modifier value.blank).value.outline =
      (Coercion.coerceOperand context field modifier value).value.outline := by
    rw [Coercion.outline_coerceOperand, Coercion.outline_coerceOperand, outline_blank]
  cases modifier with
  | not =>
      rw [value_lowerValue_not, value_lowerValue_not, exclusionKey_blank]
      exact congrArg (Prod.mk (exclusionKey value)) coerced
  | text kind =>
      have hasText := isSome_operandText?_blank value
      cases text : Pattern.operandText? value with
      | some shown =>
          rw [text] at hasText
          obtain ⟨blankShown, blankText⟩ := Option.isSome_iff_exists.1 hasText
          simp only [lowerValue, text, blankText]
          rfl
      | none =>
          rw [text] at hasText
          have blankText := Option.isSome_eq_false_iff.1 hasText
          rw [Option.isNone_iff_eq_none] at blankText
          simp only [lowerValue, text, blankText]
          exact congrArg (Prod.mk (Modifier.text kind).key) coerced
  | comparison comparison =>
      exact congrArg (Prod.mk (Modifier.comparison comparison).key) coerced
  | verbatim key => exact congrArg (Prod.mk key) coerced

mutual

/-- What is asked of a field has an outline that no string changes. -/
theorem outline_lower : ∀ value : Value,
    (lower context field (ofValue value.blank)).value.outline =
      (lower context field (ofValue value)).value.outline
  | .document fields => by
      rw [blank, ofValue, ofValue, value_lower_modifiers, value_lower_modifiers,
        outline_unwrapRegex, outline_unwrapRegex, outlineFields_ofList, outlineFields_ofList,
        outlineFields_emitted fields]
  | .array items => by
      have members : (Coercion.coerce context field (Value.array items).blank).value.outline =
          (Coercion.coerce context field (.array items)).value.outline := by
        rw [Coercion.outline_coerce, Coercion.outline_coerce, outline_blank]
      exact congrArg (fun outline => Outline.document [(membershipKey, outline)]) members
  | .string text => by
      show (Coercion.coerce context field (.string "")).value.outline =
        (Coercion.coerce context field (.string text)).value.outline
      rw [Coercion.outline_coerce, Coercion.outline_coerce]
      rfl
  | .codeWithScope source scope => by
      show (Coercion.coerce context field (Value.codeWithScope source scope).blank).value.outline =
        (Coercion.coerce context field (.codeWithScope source scope)).value.outline
      rw [Coercion.outline_coerce, Coercion.outline_coerce, outline_blank]
  | .double _ | .binary _ _ | .undefined | .objectId _ | .boolean _ | .dateTime _ | .null
  | .regex _ | .dbPointer _ _ | .code _ | .symbol _ | .int32 _ | .timestamp _ _ | .int64 _
  | .decimal128 _ | .maxKey | .minKey => rfl

theorem outlineFields_emitted : ∀ fields : List (String × Value),
    outlineFields (emitted context field (Operand.ofFields (blankFields fields))).value =
      outlineFields (emitted context field (Operand.ofFields fields)).value
  | [] => rfl
  | (key, value) :: rest => by
      have here := outlineEntry_lowerOperand (Modifier.resolve key value) value
      have later := outlineFields_emitted rest
      simp only [blankFields, Operand.ofFields, emitted, Reported.value_bind,
        Reported.value_pure, resolve_blank, outlineFields_cons, here, later]

theorem outlineEntry_lowerOperand (modifier : Modifier) : ∀ value : Value,
    outlineEntry
        (lowerOperand context field modifier (Operand.ofValue modifier value.blank)).value =
      outlineEntry (lowerOperand context field modifier (Operand.ofValue modifier value)).value
  | .document fields => by
      by_cases negated : modifier = .not
      · have inner := outlineFields_emitted fields
        subst negated
        rw [blank, Operand.ofValue, Operand.ofValue, if_pos rfl, if_pos rfl]
        simp only [lowerOperand, Reported.value_bind, Reported.value_pure,
          value_lower_modifiers, outlineEntry, outline_unwrapRegex, outlineFields_ofList, inner]
      · rw [Operand.ofValue_of_ne negated, Operand.ofValue_of_ne negated]
        exact outlineEntry_lowerValue context field modifier _
  | .string _ | .array _ | .double _ | .binary _ _ | .undefined | .objectId _ | .boolean _
  | .dateTime _ | .null | .regex _ | .dbPointer _ _ | .code _ | .symbol _
  | .codeWithScope _ _ | .int32 _ | .timestamp _ _ | .int64 _ | .decimal128 _
  | .maxKey | .minKey => outlineEntry_lowerValue context field modifier _

end

end Expression

end Criteria
