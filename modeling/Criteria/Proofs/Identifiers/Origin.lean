import Criteria.Proofs.ExtendedJson.Translation

/-!
# Where identifiers come from

Nothing but the identity makes identifiers. Without its option every identifier of a query
stands in the criteria already, as a value of its own, in a pointer or in the scope of a
code, and all three are copied as they are.
-/

namespace Criteria

/-- Whether a leaf is an identifier or may hold one. -/
def Value.holdsIdentifier : Value → Bool
  | .objectId _ => true
  | .dbPointer _ _ => true
  | .codeWithScope _ _ => true
  | _ => false

namespace Coercion

/-! ## Declared types make no identifier -/

theorem holdsIdentifier_wholeValue (negative : Bool) (digits : List Char) :
    (wholeValue negative digits).holdsIdentifier = false := by
  simp only [wholeValue, Value.ofInt?]
  split
  · rfl
  · split <;> rfl

theorem holdsIdentifier_numberOr (context : Context) (field : String) (type : FieldType)
    (text : String) {read : Option Value}
    (number : ∀ value, read = some value → value.holdsIdentifier = false) :
    (numberOr context field type text read).value.holdsIdentifier = false := by
  cases read with
  | some value => exact number value rfl
  | none =>
      obtain ⟨schema, fallback, identity⟩ := context
      cases fallback <;> rfl

theorem holdsIdentifier_dateOr (field : String) (type : FieldType) (text : String)
    (read : Option Int) : (dateOr field type text read).value.holdsIdentifier = false := by
  cases read <;> rfl

theorem holdsIdentifier_calendarValue (field text : String) :
    (calendarValue field text).value.holdsIdentifier = false := by
  unfold calendarValue
  split
  · exact holdsIdentifier_dateOr field .date text _
  · split
    · exact holdsIdentifier_dateOr field .date text _
    · rfl

theorem holdsIdentifier_booleanValue (text : String) :
    (booleanValue text).holdsIdentifier = false := by
  unfold booleanValue
  split
  · rfl
  · split <;> rfl

/-- No type of a schema makes identifiers. -/
theorem holdsIdentifier_typed (context : Context) (field text : String) :
    (typed context field text).value.holdsIdentifier = false := by
  unfold typed
  split
  · refine holdsIdentifier_numberOr context field .integer text fun value number => ?_
    obtain ⟨front, -, rfl⟩ := Option.map_eq_some_iff.1 number
    exact holdsIdentifier_wholeValue front.1 front.2
  · refine holdsIdentifier_numberOr context field .float text fun value number => ?_
    obtain ⟨real, -, rfl⟩ := Option.map_eq_some_iff.1 number
    rfl
  · exact holdsIdentifier_calendarValue field text
  · exact holdsIdentifier_dateOr field .datetime text _
  · exact holdsIdentifier_booleanValue text
  · rfl

end Coercion

section

variable {part : Value} {context : Context}

theorem Value.not_mem_parts_of_isLeaf (holds : part.holdsIdentifier = true) {leaf : Value}
    (isLeaf : leaf.isLeaf = true) (free : leaf.holdsIdentifier = false) :
    part ∉ leaf.parts := by
  rw [parts_of_isLeaf isLeaf, List.mem_singleton]
  rintro rfl
  exact absurd (holds.symm.trans free) Bool.noConfusion

namespace Coercion

/-- With identifiers off, coercion brings none in. -/
theorem mem_parts_coerce (holds : part.holdsIdentifier = true)
    (off : context.options.objectIdIdentity = false) {field : String} {value : Value}
    (member : part ∈ (coerce context field value).value.parts) : part ∈ value.parts := by
  have notAsked : ¬(context.options.objectIdIdentity = true ∧ field = identityField) := by
    rintro ⟨asked, -⟩
    exact absurd (off.symm.trans asked) Bool.noConfusion
  rcases string_or_array_or_fixed value with ⟨text, rfl⟩ | ⟨items, rfl⟩ | fixed
  · have unidentified : ¬context.options.Identifies field text :=
      fun both => notAsked ⟨both.1, both.2.1⟩
    have isLeaf := (coerce_string_fromText context field text).isLeaf
    have free : (coerce context field (.string text)).value.holdsIdentifier = false := by
      rw [coerce_string_of_not_identifies context unidentified]
      exact holdsIdentifier_typed context field text
    exact absurd member (Value.not_mem_parts_of_isLeaf holds isLeaf free)
  · rw [coerce_array, identifiedItems, if_neg notAsked] at member
    exact member
  · rw [coerce_of_fixed context field fixed] at member
    exact member

theorem mem_parts_coerceOperand (holds : part.holdsIdentifier = true)
    (off : context.options.objectIdIdentity = false) {field : String} {modifier : Modifier}
    {value : Value} (member : part ∈ (coerceOperand context field modifier value).value.parts) :
    part ∈ value.parts := by
  unfold coerceOperand at member
  split at member
  · exact member
  · exact mem_parts_coerce holds off member

end Coercion

/-! ## Expressions -/

namespace Expression

theorem mem_parts_lowerValue (holds : part.holdsIdentifier = true)
    (off : context.options.objectIdIdentity = false) {field : String} {modifier : Modifier}
    {value : Value} (member : part ∈ (lowerValue context field modifier value).value.2.parts) :
    part ∈ value.parts := by
  cases modifier with
  | not =>
      rw [value_lowerValue_not] at member
      exact Coercion.mem_parts_coerce holds off member
  | text kind =>
      cases text : Pattern.operandText? value with
      | some shown =>
          simp only [lowerValue, text, Reported.value_pure] at member
          exact absurd member (Value.not_mem_parts_of_isLeaf holds rfl rfl)
      | none =>
          simp only [lowerValue, text, Reported.value_bind, Reported.value_pure] at member
          exact Coercion.mem_parts_coerceOperand holds off member
  | comparison _ | verbatim _ => exact Coercion.mem_parts_coerceOperand holds off member

theorem mem_parts_lowerField_of_lower (holds : part.holdsIdentifier = true)
    (off : context.options.objectIdIdentity = false) {field key : String} {value : Value}
    (asked : part ∈ (lower context field (ofValue value)).value.parts → part ∈ value.parts)
    (member : part ∈ (lowerField context field (key, value)).value.2.parts) :
    part ∈ value.parts := by
  rcases Operand.ofValue_eq_or (Modifier.resolve key value) value with
    ⟨fields, rfl, negation, -⟩ | kept
  · rw [lowerField_negated context field negation] at member
    exact asked member
  · rw [lowerField, kept, lowerOperand] at member
    exact mem_parts_lowerValue holds off member

/-- What a modifier map holds is held by one of its entries. -/
theorem exists_of_mem_parts_lower_modifiers (holds : part.holdsIdentifier = true)
    {field : String} {fields : Document}
    (member : part ∈ (lower context field (.modifiers (Operand.ofFields fields))).value.parts) :
    ∃ entry ∈ fields, part ∈ (lowerField context field entry).value.2.parts := by
  rw [value_lower_modifiers] at member
  rcases unwrapRegex_eq_or (Keyed.ofList (emitted context field (Operand.ofFields fields)).value)
    with ⟨r, -, regex⟩ | document
  · rw [regex] at member
    exact absurd member (Value.not_mem_parts_of_isLeaf holds rfl rfl)
  · rw [document, Value.mem_parts_document] at member
    rcases member with rfl | ⟨entry, inDocument, inner⟩
    · cases holds
    · have written := Keyed.mem_of_mem_ofList inDocument
      rw [value_emitted_ofFields] at written
      obtain ⟨original, inFields, rfl⟩ := List.mem_map.1 written
      exact ⟨original, inFields, inner⟩

mutual

theorem mem_parts_lower (holds : part.holdsIdentifier = true)
    (off : context.options.objectIdIdentity = false) {field : String} : ∀ {value : Value},
    part ∈ (lower context field (ofValue value)).value.parts → part ∈ value.parts
  | .document fields, member => by
      obtain ⟨entry, inFields, written⟩ := exists_of_mem_parts_lower_modifiers holds member
      have inner := mem_parts_lowerField holds off entry inFields written
      exact Value.mem_parts_document.2 (Or.inr ⟨entry, inFields, inner⟩)
  | .array items, member => by
      rw [ofValue, lower, Reported.value_bind, Reported.value_pure,
        Value.mem_parts_document] at member
      rcases member with rfl | ⟨entry, only, inner⟩
      · cases holds
      · rw [List.mem_singleton.1 only] at inner
        exact Coercion.mem_parts_coerce holds off inner
  | .string _, member | .double _, member | .binary _ _, member | .undefined, member
  | .objectId _, member | .boolean _, member | .dateTime _, member | .null, member
  | .regex _, member | .dbPointer _ _, member | .code _, member | .symbol _, member
  | .codeWithScope _ _, member | .int32 _, member | .timestamp _ _, member | .int64 _, member
  | .decimal128 _, member | .maxKey, member | .minKey, member =>
      Coercion.mem_parts_coerce holds off member

theorem mem_parts_lowerField (holds : part.holdsIdentifier = true)
    (off : context.options.objectIdIdentity = false) {field : String} :
    ∀ {fields : List (String × Value)}, ∀ entry ∈ fields,
      part ∈ (lowerField context field entry).value.2.parts → part ∈ entry.2.parts
  | [], _, inFields, _ => absurd inFields List.not_mem_nil
  | (key, value) :: rest, entry, inFields, member => by
      have asked : part ∈ (lower context field (ofValue value)).value.parts →
          part ∈ value.parts := mem_parts_lower holds off
      rcases List.mem_cons.1 inFields with rfl | later
      · exact mem_parts_lowerField_of_lower holds off asked member
      · exact mem_parts_lowerField holds off entry later member

end

end Expression

/-! ## Levels -/

namespace Clause

theorem mem_parts_of_mem_fields {value entry : Value} {name : String}
    (field : (name, entry) ∈ value.fields) (member : part ∈ entry.parts) : part ∈ value.parts := by
  cases value with
  | document fields => exact Value.mem_parts_document.2 (Or.inr ⟨(name, entry), field, member⟩)
  | _ => exact absurd field List.not_mem_nil

/-- The document of a pattern holds what its member of the like group holds. -/
theorem mem_parts_lower_pattern (holds : part.holdsIdentifier = true)
    (off : context.options.objectIdIdentity = false) {name : String} {pattern : Value}
    (member : part ∈ (Source.lower context name (.pattern pattern)).value.parts) :
    part ∈ pattern.parts := by
  have written := Expression.mem_parts_lower holds off member
  rcases Value.mem_parts_document.1 written with rfl | ⟨entry, only, inner⟩
  · cases holds
  · rw [List.mem_singleton.1 only] at inner
    exact inner

mutual

theorem mem_parts_whereQuery (holds : part.holdsIdentifier = true)
    (off : context.options.objectIdIdentity = false) : ∀ value : Value,
    part ∈ (Value.document (whereQuery context value).value).parts → part ∈ value.parts
  | .document fields, member => by
      rw [value_whereQuery_eq, Value.mem_parts_document] at member
      rcases member with rfl | ⟨⟨name, written⟩, inLevel, inner⟩
      · cases holds
      · obtain ⟨source, last, rfl⟩ := Keyed.mem_mapEntries.1 inLevel
        have original := mem_parts_sources holds off [] fields
          (Keyed.mem_of_mem_ofList last) inner
        exact Value.mem_parts_document.2 (Or.inr original)
  | .string _, member | .array _, member | .double _, member | .binary _ _, member
  | .undefined, member | .objectId _, member | .boolean _, member | .dateTime _, member
  | .null, member | .regex _, member | .dbPointer _ _, member | .code _, member
  | .symbol _, member | .codeWithScope _ _, member | .int32 _, member
  | .timestamp _ _, member | .int64 _, member | .decimal128 _, member | .maxKey, member
  | .minKey, member => by
      obtain rfl := List.mem_singleton.1 member
      cases holds

theorem mem_parts_sources (holds : part.holdsIdentifier = true)
    (off : context.options.objectIdIdentity = false) (before : List String) :
    ∀ (fields : List (String × Value)) {name : String} {source : Source},
      (name, source) ∈ sources before fields →
      part ∈ (source.lower context name).value.parts → ∃ entry ∈ fields, part ∈ entry.2.parts
  | [], _, _, written, _ => absurd written List.not_mem_nil
  | (key, value) :: rest, name, source, written, member => by
      rcases List.mem_append.1 written with here | behind
      · refine ⟨(key, value), List.mem_cons_self, ?_⟩
        rcases mem_entrySources here with
          ⟨operator, items, -, rfl, rfl, rfl⟩ | ⟨pattern, -, inGroup, rfl⟩ | ⟨-, rfl, rfl⟩
        · have elements : ∀ item ∈ items,
              part ∈ (Value.document (whereQuery context item).value).parts →
                part ∈ item.parts := mem_parts_elements holds off items
          rw [value_lower_elements, Value.mem_parts_array] at member
          rcases member with rfl | ⟨document, isElement, inner⟩
          · cases holds
          · obtain ⟨item, inItems, rfl⟩ := List.mem_map.1 isElement
            exact Value.mem_parts_array.2 (Or.inr ⟨item, inItems, elements item inItems inner⟩)
        · exact mem_parts_of_mem_fields inGroup (mem_parts_lower_pattern holds off member)
        · exact Expression.mem_parts_lower holds off member
      · obtain ⟨entry, inRest, inner⟩ := mem_parts_sources holds off _ rest behind member
        exact ⟨entry, List.mem_cons_of_mem _ inRest, inner⟩

theorem mem_parts_elements (holds : part.holdsIdentifier = true)
    (off : context.options.objectIdIdentity = false) :
    ∀ items : List Value, ∀ item ∈ items,
      part ∈ (Value.document (whereQuery context item).value).parts → part ∈ item.parts
  | [], _, inItems, _ => absurd inItems List.not_mem_nil
  | head :: tail, item, inItems, member => by
      have here : part ∈ (Value.document (whereQuery context head).value).parts →
          part ∈ head.parts := mem_parts_whereQuery holds off head
      rcases List.mem_cons.1 inItems with rfl | later
      · exact here member
      · exact mem_parts_elements holds off tail item later member

end

end Clause

/-! ## Queries -/

/-- A sort order holds no identifier. -/
theorem Sort.not_mem_parts_ofValue (holds : part.holdsIdentifier = true) (value : Value) :
    part ∉ (Value.document (ofValue value).value).parts := by
  intro member
  rcases Value.mem_parts_document.1 member with rfl | ⟨entry, inSort, inner⟩
  · cases holds
  · cases value with
    | document fields =>
        obtain ⟨original, -, rfl⟩ := List.mem_map.1 (Keyed.mem_of_mem_ofList inSort)
        exact Value.not_mem_parts_of_isLeaf holds rfl rfl inner
    | _ => exact absurd inSort List.not_mem_nil

theorem mem_parts_entryQuery (holds : part.holdsIdentifier = true)
    (off : context.options.objectIdIdentity = false) {key : String} {value : Value}
    (member : part ∈ (entryQuery context key value).value.parts) : part ∈ value.parts := by
  unfold entryQuery at member
  split at member
  · exact Clause.mem_parts_whereQuery holds off value member
  · split at member
    · exact absurd member (Sort.not_mem_parts_ofValue holds value)
    · exact member

/-- Without identifiers asked for, a query holds those of its criteria at most. -/
theorem mem_parts_query (holds : part.holdsIdentifier = true)
    (off : context.options.objectIdIdentity = false) {criteria : Document}
    (member : part ∈ (Value.document (query context criteria).value).parts) :
    part ∈ (Value.document criteria).parts := by
  rw [Value.mem_parts_document] at member ⊢
  rcases member with rfl | ⟨entry, inQuery, inner⟩
  · cases holds
  · refine Or.inr ?_
    induction criteria with
    | nil => exact absurd inQuery List.not_mem_nil
    | cons first rest ih =>
        obtain ⟨key, value⟩ := first
        rcases List.mem_cons.1 inQuery with rfl | behind
        · exact ⟨(key, value), List.mem_cons_self, mem_parts_entryQuery holds off inner⟩
        · obtain ⟨original, inRest, held⟩ := ih behind
          exact ⟨original, List.mem_cons_of_mem _ inRest, held⟩

end

end Criteria
