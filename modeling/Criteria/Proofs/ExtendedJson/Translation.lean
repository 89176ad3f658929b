import Criteria.Proofs.ExtendedJson.RoundTrip
import Criteria.Proofs.Grammar

/-!
# Queries written and read back

Every key of a query is an operator of the store, the identity, or a key of the criteria,
and none of the first two is reserved by a wrapper. So criteria without reserved keys have
a query without them, and criteria that were read have none.
-/

namespace Criteria

/-! ## Keys that translation writes -/

/-- No logical operator is a reserved key. -/
theorem LogicalOperator.free_key (operator : LogicalOperator) : Wrapper.Free operator.key := by
  cases operator <;> decide

theorem TextMatch.free_key (kind : TextMatch) : Wrapper.Free kind.key := by
  cases kind <;> decide

theorem Expression.free_exclusionKey (value : Value) : Wrapper.Free (exclusionKey value) := by
  rcases exclusionKey_eq_or value with exclusion | inequality
  · rw [exclusion]
    decide
  · rw [inequality]
    decide

theorem free_regexKey : Wrapper.Free regexKey := by
  decide

theorem free_membershipKey : Wrapper.Free membershipKey := by
  decide

theorem Meaning.free_negationKey : Wrapper.Free negationKey := by
  decide

/-- A modifier writes its operator, or the key that it was read from. -/
theorem Modifier.free_key_resolve {key : String} (free : Wrapper.Free key) (operand : Value) :
    Wrapper.Free (Modifier.resolve key operand).key := by
  have resolved := Modifier.resolve_cases key operand
  generalize Modifier.resolve key operand = modifier at resolved
  cases modifier with
  | comparison comparison => cases comparison <;> decide
  | not => decide
  | text kind => exact kind.free_key
  | verbatim other =>
      rcases resolved with ⟨verbatim, -⟩ | ⟨spelled, -⟩
      · cases verbatim
        exact free
      · exact absurd spelled (Modifier.ofLowercase?_ne_verbatim _ other)

/-- Renaming the identity gives no reserved key. -/
theorem Clause.free_nameAfter {name : String} (free : Wrapper.Free name) (before : List String) :
    Wrapper.Free (nameAfter before name) := by
  unfold nameAfter
  split
  · decide
  · exact free

theorem Sort.free_outputName {name : String} (free : Wrapper.Free name) :
    Wrapper.Free (outputName name) := by
  unfold outputName
  split
  · decide
  · exact free

/-! ## Values under declared types -/

namespace Coercion

mutual

theorem unreserved_toObjectId : ∀ value : Value, value.Unreserved →
    (toObjectId value).Unreserved
  | .string text, _ => by
      rw [toObjectId]
      split <;> exact Value.unreserved_of_isLeaf rfl
  | .array items, unreserved => by
      rw [toObjectId, Value.unreserved_array_iff]
      exact unreserved_toObjectIds items ((Value.unreserved_array_iff items).1 unreserved)
  | .double _, unreserved | .document _, unreserved | .binary _ _, unreserved
  | .undefined, unreserved | .objectId _, unreserved | .boolean _, unreserved
  | .dateTime _, unreserved | .null, unreserved | .regex _, unreserved
  | .dbPointer _ _, unreserved | .code _, unreserved | .symbol _, unreserved
  | .codeWithScope _ _, unreserved | .int32 _, unreserved | .timestamp _ _, unreserved
  | .int64 _, unreserved | .decimal128 _, unreserved | .maxKey, unreserved
  | .minKey, unreserved => unreserved

theorem unreserved_toObjectIds : ∀ items : List Value, (∀ item ∈ items, item.Unreserved) →
    ∀ item ∈ toObjectIds items, item.Unreserved
  | [], _, _, member => absurd member List.not_mem_nil
  | head :: tail, unreserved, item, member => by
      rcases List.mem_cons.1 member with rfl | later
      · exact unreserved_toObjectId head (unreserved head List.mem_cons_self)
      · exact unreserved_toObjectIds tail
          (fun other inTail => unreserved other (List.mem_cons_of_mem _ inTail)) item later

end

theorem FromText.isLeaf {text : String} {value : Value} (fromText : FromText text value) :
    value.isLeaf = true := by
  cases fromText <;> rfl

/-- Coercion brings in no reserved key. -/
theorem unreserved_coerce (context : Context) (field : String) {value : Value}
    (unreserved : value.Unreserved) : (coerce context field value).value.Unreserved := by
  rcases string_or_array_or_fixed value with ⟨text, rfl⟩ | ⟨items, rfl⟩ | fixed
  · exact Value.unreserved_of_isLeaf (coerce_string_fromText context field text).isLeaf
  · have members := (Value.unreserved_array_iff items).1 unreserved
    rw [coerce_array, Reported.value_pure, Value.unreserved_array_iff, identifiedItems]
    split
    · exact unreserved_toObjectIds items members
    · exact members
  · rw [coerce_of_fixed context field fixed]
    exact unreserved

theorem unreserved_coerceOperand (context : Context) (field : String) (modifier : Modifier)
    {value : Value} (unreserved : value.Unreserved) :
    (coerceOperand context field modifier value).value.Unreserved := by
  unfold coerceOperand
  split
  · exact unreserved
  · exact unreserved_coerce context field unreserved

end Coercion

/-! ## Expressions -/

theorem unreserved_empty : (Value.document []).Unreserved :=
  (Value.unreserved_document_iff []).2 fun _ member => absurd member List.not_mem_nil

/-- A key and a value that a document without reserved keys may hold. -/
def UnreservedEntry (entry : String × Value) : Prop :=
  Wrapper.Free entry.1 ∧ entry.2.Unreserved

namespace Expression

theorem unreservedEntry_lowerValue (context : Context) (field : String) {key : String}
    {value : Value} (entry : UnreservedEntry (key, value)) :
    UnreservedEntry (lowerValue context field (Modifier.resolve key value) value).value := by
  obtain ⟨free, unreserved⟩ := entry
  have modifierFree := Modifier.free_key_resolve free value
  generalize Modifier.resolve key value = modifier at modifierFree
  cases modifier with
  | not =>
      rw [value_lowerValue_not]
      exact ⟨free_exclusionKey value, Coercion.unreserved_coerce context field unreserved⟩
  | text kind =>
      cases text : Pattern.operandText? value with
      | some shown =>
          simp only [lowerValue, text, Reported.value_pure]
          exact ⟨free_regexKey, Value.unreserved_of_isLeaf rfl⟩
      | none =>
          simp only [lowerValue, text, Reported.value_bind, Reported.value_pure]
          exact ⟨modifierFree, Coercion.unreserved_coerceOperand context field _ unreserved⟩
  | comparison _ | verbatim _ =>
      exact ⟨modifierFree, Coercion.unreserved_coerceOperand context field _ unreserved⟩

theorem unreservedEntry_lowerField_of_lower (context : Context) (field : String) {key : String}
    {value : Value} (entry : UnreservedEntry (key, value))
    (asked : (lower context field (ofValue value)).value.Unreserved) :
    UnreservedEntry (lowerField context field (key, value)).value := by
  rcases Operand.ofValue_eq_or (Modifier.resolve key value) value with
    ⟨fields, rfl, negation, -⟩ | kept
  · -- only a negated document is read further, and it is written as what it asks
    rw [lowerField_negated context field negation, Reported.value_map]
    exact ⟨Meaning.free_negationKey, asked⟩
  · rw [lowerField, kept, lowerOperand]
    exact unreservedEntry_lowerValue context field entry

/-- A modifier map has no reserved keys if none of its entries writes one. -/
theorem unreserved_lower_modifiers {context : Context} {field : String} {fields : Document}
    (entries : ∀ entry ∈ fields, UnreservedEntry (lowerField context field entry).value) :
    (lower context field (.modifiers (Operand.ofFields fields))).value.Unreserved := by
  rw [value_lower_modifiers]
  rcases unwrapRegex_eq_or (Keyed.ofList (emitted context field (Operand.ofFields fields)).value)
    with ⟨r, -, regex⟩ | document
  · rw [regex]
    exact Value.unreserved_of_isLeaf rfl
  · rw [document, Value.unreserved_document_iff]
    intro entry member
    have written := Keyed.mem_of_mem_ofList member
    rw [value_emitted_ofFields] at written
    obtain ⟨original, inFields, rfl⟩ := List.mem_map.1 written
    exact entries original inFields

theorem unreserved_lower_leaf (context : Context) (field : String) {value : Value}
    (leaf : value.isLeaf = true) : (lower context field (ofValue value)).value.Unreserved := by
  have unreserved := Value.unreserved_of_isLeaf leaf
  cases value with
  | document fields => cases leaf
  | array items => cases leaf
  | _ => exact Coercion.unreserved_coerce context field unreserved

mutual

theorem unreserved_lower (context : Context) (field : String) : ∀ value : Value,
    value.Unreserved → (lower context field (ofValue value)).value.Unreserved
  | .document fields, unreserved =>
      unreserved_lower_modifiers
        (unreservedEntry_lowerField context field fields
          ((Value.unreserved_document_iff fields).1 unreserved))
  | .array items, unreserved => by
      have members := Coercion.unreserved_coerce context field unreserved
      rw [ofValue, lower, Reported.value_bind, Reported.value_pure,
        Value.unreserved_document_iff]
      intro entry member
      rw [List.mem_singleton.1 member]
      exact ⟨free_membershipKey, members⟩
  | .double _, _ | .string _, _ | .binary _ _, _ | .undefined, _ | .objectId _, _
  | .boolean _, _ | .dateTime _, _ | .null, _ | .regex _, _ | .dbPointer _ _, _ | .code _, _
  | .symbol _, _ | .codeWithScope _ _, _ | .int32 _, _ | .timestamp _ _, _ | .int64 _, _
  | .decimal128 _, _ | .maxKey, _ | .minKey, _ => unreserved_lower_leaf context field rfl

theorem unreservedEntry_lowerField (context : Context) (field : String) :
    ∀ fields : List (String × Value), (∀ entry ∈ fields, UnreservedEntry entry) →
      ∀ entry ∈ fields, UnreservedEntry (lowerField context field entry).value
  | [], _, _, member => absurd member List.not_mem_nil
  | (key, value) :: rest, unreserved, entry, member => by
      rcases List.mem_cons.1 member with rfl | later
      · have here := unreserved (key, value) List.mem_cons_self
        have asked := unreserved_lower context field value here.2
        exact unreservedEntry_lowerField_of_lower context field here asked
      · exact unreservedEntry_lowerField context field rest
          (fun other inRest => unreserved other (List.mem_cons_of_mem _ inRest)) entry later

end

end Expression

/-! ## Levels -/

namespace Clause

theorem unreservedEntry_of_mem_fields {value : Value} (unreserved : value.Unreserved)
    {entry : String × Value} (member : entry ∈ value.fields) : UnreservedEntry entry := by
  cases value with
  | document fields => exact (Value.unreserved_document_iff fields).1 unreserved entry member
  | _ => exact absurd member List.not_mem_nil

theorem unreservedEntry_pattern (context : Context) {name : String} {pattern : Value}
    (entry : UnreservedEntry (name, pattern)) :
    UnreservedEntry (name, (Source.lower context name (.pattern pattern)).value) := by
  have group : (Value.document [("like", pattern)]).Unreserved := by
    rw [Value.unreserved_document_iff]
    intro other member
    rw [List.mem_singleton.1 member]
    exact ⟨TextMatch.free_key .like, entry.2⟩
  exact ⟨entry.1, Expression.unreserved_lower context name _ group⟩

mutual

theorem unreserved_whereQuery (context : Context) : ∀ value : Value, value.Unreserved →
    (Value.document (whereQuery context value).value).Unreserved
  | .document fields, unreserved => by
      have entries := (Value.unreserved_document_iff fields).1 unreserved
      rw [value_whereQuery_eq, Value.unreserved_document_iff]
      rintro ⟨name, written⟩ member
      obtain ⟨source, last, rfl⟩ := Keyed.mem_mapEntries.1 member
      exact unreservedEntry_sources context [] fields entries _ (Keyed.mem_of_mem_ofList last)
  | .string _, _ | .array _, _ | .double _, _ | .binary _ _, _ | .undefined, _
  | .objectId _, _ | .boolean _, _ | .dateTime _, _ | .null, _ | .regex _, _
  | .dbPointer _ _, _ | .code _, _ | .symbol _, _ | .codeWithScope _ _, _ | .int32 _, _
  | .timestamp _ _, _ | .int64 _, _ | .decimal128 _, _ | .maxKey, _ | .minKey, _ =>
      unreserved_empty

theorem unreservedEntry_sources (context : Context) (before : List String) :
    ∀ fields : List (String × Value), (∀ entry ∈ fields, UnreservedEntry entry) →
      ∀ entry ∈ sources before fields,
        UnreservedEntry (entry.1, (entry.2.lower context entry.1).value)
  | [], _, _, member => absurd member List.not_mem_nil
  | (key, value) :: rest, unreserved, entry, member => by
      have free := unreserved (key, value) List.mem_cons_self
      rcases List.mem_append.1 member with here | behind
      · obtain ⟨name, source⟩ := entry
        -- a like group brings in the keys of a document below, the others write their own
        rcases mem_entrySources here with
          ⟨operator, items, -, rfl, rfl, rfl⟩ | ⟨pattern, -, inGroup, rfl⟩ | ⟨-, rfl, rfl⟩
        · have members := (Value.unreserved_array_iff items).1 free.2
          have elements := unreserved_elements context items members
          refine ⟨operator.free_key, ?_⟩
          rw [value_lower_elements, Value.unreserved_array_iff]
          intro document isElement
          obtain ⟨item, inItems, rfl⟩ := List.mem_map.1 isElement
          exact elements item inItems
        · exact unreservedEntry_pattern context (unreservedEntry_of_mem_fields free.2 inGroup)
        · exact ⟨free_nameAfter free.1 before,
            Expression.unreserved_lower context _ value free.2⟩
      · exact unreservedEntry_sources context _ rest
          (fun other inRest => unreserved other (List.mem_cons_of_mem _ inRest)) entry behind

theorem unreserved_elements (context : Context) : ∀ items : List Value,
    (∀ item ∈ items, item.Unreserved) →
    ∀ item ∈ items, (Value.document (whereQuery context item).value).Unreserved
  | [], _, _, member => absurd member List.not_mem_nil
  | head :: tail, unreserved, item, member => by
      have here := unreserved_whereQuery context head (unreserved head List.mem_cons_self)
      rcases List.mem_cons.1 member with rfl | later
      · exact here
      · exact unreserved_elements context tail
          (fun other inTail => unreserved other (List.mem_cons_of_mem _ inTail)) item later

end

end Clause

/-! ## Queries -/

theorem Sort.unreserved_ofValue {value : Value} (unreserved : value.Unreserved) :
    (Value.document (ofValue value).value).Unreserved := by
  cases value with
  | document fields =>
      rw [Value.unreserved_document_iff] at unreserved ⊢
      intro entry member
      obtain ⟨original, inFields, rfl⟩ := List.mem_map.1 (Keyed.mem_of_mem_ofList member)
      exact ⟨free_outputName (unreserved original inFields).1, Value.unreserved_of_isLeaf rfl⟩
  | _ => exact unreserved_empty

theorem unreserved_entryQuery (context : Context) (key : String) {value : Value}
    (unreserved : value.Unreserved) : (entryQuery context key value).value.Unreserved := by
  unfold entryQuery
  split
  · exact Clause.unreserved_whereQuery context value unreserved
  · split
    · exact Sort.unreserved_ofValue unreserved
    · exact unreserved

/-- A query has no reserved key where its criteria have none. -/
theorem unreserved_query (context : Context) {criteria : Document}
    (unreserved : (Value.document criteria).Unreserved) :
    (Value.document (query context criteria).value).Unreserved := by
  rw [Value.unreserved_document_iff] at unreserved ⊢
  induction criteria with
  | nil => exact fun _ member => absurd member List.not_mem_nil
  | cons entry rest ih =>
      obtain ⟨key, value⟩ := entry
      obtain ⟨free, valueUnreserved⟩ := unreserved (key, value) List.mem_cons_self
      have later := ih fun other member => unreserved other (List.mem_cons_of_mem _ member)
      intro entry member
      rcases List.mem_cons.1 member with rfl | behind
      · exact ⟨free, unreserved_entryQuery context key valueUnreserved⟩
      · exact later entry behind

theorem unreserved_criteriaOfJson {json : Json} {criteria : Document}
    (accepted : criteriaOfJson json = .ok criteria) : (Value.document criteria).Unreserved := by
  unfold criteriaOfJson at accepted
  split at accepted
  · cases accepted
  · rename_i fields read
    cases accepted
    exact Value.unreserved_ofJson? read
  · cases accepted

/-- No document in a query is taken for a wrapper, and the relaxed form of the query is
read back as the query with every integer in the smaller kind, if the leaves whose
spelling is taken for granted are. -/
theorem criteriaOfJson_toJson_query (context : Context) {json : Json} {criteria : Document}
    (accepted : criteriaOfJson json = .ok criteria) :
    (∀ fields, .document fields ∈ (Value.document (query context criteria).value).parts →
        Wrapper.of? (Value.fieldsJson .relaxed fields) = none) ∧
      ((∀ leaf ∈ (Value.document (query context criteria).value).parts,
          leaf.isSpelled = true → leaf.ReadsBack) →
        criteriaOfJson (Value.document (query context criteria).value).toJson =
          .ok (Value.narrowedFields (query context criteria).value)) := by
  have unreserved := unreserved_query context (unreserved_criteriaOfJson accepted)
  constructor
  · intro fields member
    rw [Wrapper.of?_eq_none_iff, Value.keys_fieldsJson]
    exact unreserved fields member
  · intro spelled
    have back := Value.readsBack_of_unreserved _ unreserved spelled
    rw [Value.ReadsBack, Value.narrowed] at back
    rw [criteriaOfJson, back]

/-- A like group beside a renamed identity, a pattern, a date, the double that is no
number, and integers of 64 bits that fit 32. -/
theorem criteriaOfJson_toJson_query_of_merged_group :
    let context : Context := ⟨Schema.ofList [("born", .date), ("age", .integer)], {}⟩
    let json : Json := .object
      [("where", .object
        [("id", .string "7"), ("LIKE", .object [("name", .string "a%")]),
          ("OR", .array [.object [("age", .object [("!", .string "old")])]]),
          ("born", .object [("GT", .string "2020-01-02")]),
          ("size", .object [("$numberLong", .string "5")])]),
        ("sort", .object [("id", .object [("$numberLong", .string "-1")])]),
        ("skip", .object [("$numberLong", .string "9")])]
    let criteria : Document :=
      [("where", .document
        [("id", .string "7"), ("LIKE", .document [("name", .string "a%")]),
          ("OR", .array [.document [("age", .document [("!", .string "old")])]]),
          ("born", .document [("GT", .string "2020-01-02")]), ("size", .int64 5)]),
        ("sort", .document [("id", .int64 (-1))]), ("skip", .int64 9)]
    let answer : Value → Value → Document := fun size skip =>
      [("where", .document
        [("_id", .string "7"), ("name", .regex ⟨"^a.*$", "i"⟩),
          ("$or", .array [.document [("age", .document [("$ne", .double .nan)])]]),
          ("born", .document [("$gt", .dateTime 1577923200000)]), ("size", size)]),
        ("sort", .document [("_id", .int32 (-1))]), ("skip", skip)]
    criteriaOfJson json = .ok criteria ∧
      (query context criteria).value = answer (.int64 5) (.int64 9) ∧
      Wrapper.of? (Value.fieldsJson .relaxed (answer (.int64 5) (.int64 9))) = none ∧
      criteriaOfJson (Value.document (answer (.int64 5) (.int64 9))).toJson =
        .ok (answer (.int32 5) (.int32 9)) := by
  intro context json criteria answer
  have accepted : criteriaOfJson json = .ok criteria := rfl
  have written : (query context criteria).value = answer (.int64 5) (.int64 9) := rfl
  have pattern : (Value.regex ⟨"^a.*$", "i"⟩).ReadsBack := by
    apply Value.readsBack_of_wrapped rfl Wrapper.noConfusion
    simp [Wrapper.value?, Wrapper.texts?, Wrapper.record?, Json.membersExactly?, Keyed.get?,
      Json.text?, Value.narrowed]
  have noNumber : (Value.double .nan).ReadsBack := by
    have written : (Value.double .nan).toJson =
        Value.wrapped .double (.string "NaN") := rfl
    have read : Double.ofText? "NaN" = some .nan := by decide +kernel
    apply Value.readsBack_of_wrapped written Wrapper.noConfusion
    simp [Wrapper.value?, Json.text?, read, Value.narrowed]
  have date : (Value.dateTime 1577923200000).ReadsBack := by
    have written : Stamp.textOf 1577923200000 = "2020-01-02T00:00:00Z" := by decide +kernel
    have read : Wrapper.instant? "2020-01-02T00:00:00Z" = some 1577923200000 := by
      decide +kernel
    apply Value.readsBack_of_wrapped rfl Wrapper.noConfusion
    simp [Wrapper.value?, Wrapper.dateBody?, written, read, Value.narrowed]
  obtain ⟨unwrapped, readBack⟩ := criteriaOfJson_toJson_query context accepted
  rw [written] at unwrapped readBack
  refine ⟨accepted, written, unwrapped _ (Value.mem_parts_self _), readBack ?_⟩
  simp [answer, Value.parts, Value.fieldsParts, Value.itemsParts, or_imp, forall_and,
    Value.isSpelled, pattern, noNumber, date]

end Criteria
