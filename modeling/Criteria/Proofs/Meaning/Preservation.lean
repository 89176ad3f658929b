import Criteria.Proofs.Clause.Diagnostics
import Criteria.Proofs.Meaning.Reading

/-!
# A query asks what the criteria state

The conditions that a level states, read with the rule `lastWritten`, are one by
one what the store reads in the entries that the level writes. Where no two
entries write the same name this is the plain reading.
-/

namespace Criteria.Meaning

variable (context : Context) (truth : Truth)

/-! ## The store's reading entry by entry -/

namespace Store

theorem operators_eq_mapEntries (field : String) (fields : Document) :
    operators truth field fields = Keyed.mapEntries (operator truth field) fields := by
  induction fields with
  | nil => rfl
  | cons entry rest ih =>
      rw [operators, ih]
      rfl

theorem clause_eq_mapEntries (fields : Document) :
    clause truth fields = Keyed.mapEntries (entry truth) fields := by
  induction fields with
  | nil => rfl
  | cons first rest ih =>
      rw [clause, ih]
      rfl

theorem operator_of_ne {key : String} (other : key ≠ negationKey) (field : String)
    (operand : Value) : operator truth field key operand = truth field key operand := by
  cases operand with
  | document fields => exact if_neg other
  | regex r => exact if_neg other
  | _ => rfl

theorem all_singleton (key : String) (condition : Prop) :
    All [(key, condition)] = condition := by
  simp [All]

/-- Counting the last conditions only is reading what is left of the operators. -/
theorem all_counted_operators (field : String) (written : Document) :
    All (Rule.lastWritten.counted (Keyed.mapEntries (operator truth field) written)) =
      All (operators truth field (Keyed.ofList written)) := by
  rw [operators_eq_mapEntries, Keyed.mapEntries_ofList]
  rfl

theorem all_counted_clause (written : Document) :
    All (Rule.lastWritten.counted (Keyed.mapEntries (entry truth) written)) =
      All (clause truth (Keyed.ofList written)) := by
  rw [clause_eq_mapEntries, Keyed.mapEntries_ofList]
  rfl

/-- A pattern stands for the document that it is unwrapped from. -/
theorem value_unwrapRegex (field : String) (fields : Document) :
    value truth field (Expression.unwrapRegex fields) =
      All (operators truth field fields) := by
  rcases Expression.unwrapRegex_eq_or fields with ⟨r, rfl, regex⟩ | document
  · have other : regexKey ≠ negationKey := by decide
    rw [regex, operators, operators, all_singleton, operator_of_ne truth other]
    rfl
  · rw [document, value]

/-- Negation reads a bare pattern as it reads the operators. -/
theorem operator_not_unwrapRegex (field : String) (fields : Document) :
    operator truth field negationKey (Expression.unwrapRegex fields) =
      ¬All (operators truth field fields) := by
  rcases Expression.unwrapRegex_eq_or fields with ⟨r, rfl, regex⟩ | document
  · have other : regexKey ≠ negationKey := by decide
    rw [regex, operators, operators, all_singleton, operator_of_ne truth other, operator,
      if_pos rfl]
  · rw [document, operator, if_pos rfl]

theorem entry_of_ne_array {operand : Value} (notArray : ∀ items, operand ≠ .array items)
    (key : String) : entry truth key operand = value truth key operand := by
  cases operand with
  | array items => exact absurd rfl (notArray items)
  | _ => rfl

theorem entry_logical (operator : LogicalOperator) (items : List Value) :
    entry truth operator.key (.array items) = combine operator (elements truth items) := by
  have named : logical? operator.key = some operator := by cases operator <;> decide
  rw [entry, named]

end Store

/-! ## The last written conditions -/

/-- A condition that stands for an entry of a query. -/
def conditionOf (read : String → Value → Prop) (entry : String × Value) : String × Prop :=
  (entry.1, read entry.1 entry.2)

namespace Stated

/-- A modifier states what the operator asks that it is written as. -/
theorem operand_eq_conditionOf (field : String) (modifier : Modifier) (value : Value) :
    operand context truth field modifier value =
      conditionOf (Store.operator truth field)
        (Expression.lowerValue context field modifier value).value := by
  cases modifier with
  | not =>
      have notVerbatim : Modifier.not ≠ .verbatim "$ne" := by decide
      have other : Expression.exclusionKey value ≠ negationKey := by
        rcases Expression.exclusionKey_eq_or value with exclusion | inequality
        · rw [exclusion]
          decide
        · rw [inequality]
          decide
      have stated : operand context truth field .not value =
          (Expression.exclusionKey value,
            truth field (Expression.exclusionKey value)
              (Coercion.coerceOperand context field .not value).value) := by
        cases value <;> rfl
      rw [stated, Expression.value_lowerValue_not, conditionOf, Store.operator_of_ne truth other,
        Coercion.coerceOperand_of_ne notVerbatim]
  | text kind =>
      cases text : Pattern.operandText? value with
      | some shown =>
          simp only [operand, Expression.lowerValue, text]
          rfl
      | none =>
          have other : kind.key ≠ negationKey := by cases kind <;> decide
          simp only [operand, Expression.lowerValue, text, conditionOf, Modifier.key,
            Reported.value_bind, Reported.value_pure, Store.operator_of_ne truth other]
  | comparison comparison =>
      have other : comparison.key ≠ negationKey := by cases comparison <;> decide
      simp only [operand, Expression.lowerValue, conditionOf, Modifier.key,
        Reported.value_bind, Reported.value_pure, Store.operator_of_ne truth other]
  | verbatim key => rfl

mutual

/-- A modifier map states what its operators ask. -/
theorem modifiers_lastWritten (field : String) : ∀ fields : List (String × Value),
    modifiers .lastWritten context truth field fields =
      Keyed.mapEntries (Store.operator truth field)
        (Expression.emitted context field (Operand.ofFields fields)).value
  | [] => rfl
  | (key, value) :: rest => by
      rw [modifiers, modifiers_lastWritten field rest,
        modifier_lastWritten field (Modifier.resolve key value) value]
      rfl

theorem modifier_lastWritten (field : String) (spelled : Modifier) : ∀ value : Value,
    modifier .lastWritten context truth field spelled value =
      conditionOf (Store.operator truth field)
        (Expression.lowerOperand context field spelled (Operand.ofValue spelled value)).value
  | .document fields => by
      by_cases negated : spelled = .not
      · have stated := modifiers_lastWritten field fields
        rw [modifier, if_pos negated, Operand.ofValue, if_pos negated, stated]
        subst negated
        simp only [Expression.lowerOperand, Reported.value_bind, Reported.value_pure,
          Expression.value_lower_modifiers, conditionOf]
        rw [Store.all_counted_operators, ← Store.operator_not_unwrapRegex]
        rfl
      · rw [modifier, if_neg negated, Operand.ofValue, if_neg negated]
        exact operand_eq_conditionOf context truth field spelled (.document fields)
  | .string _ | .array _ | .double _ | .binary _ _ | .undefined | .objectId _ | .boolean _
  | .dateTime _ | .null | .regex _ | .dbPointer _ _ | .code _ | .symbol _
  | .codeWithScope _ _ | .int32 _ | .timestamp _ _ | .int64 _ | .decimal128 _
  | .maxKey | .minKey => operand_eq_conditionOf context truth field spelled _

end

/-- What a value states of a field is what the store reads in its lowered
form. -/
theorem expression_lastWritten (field : String) (value : Value) :
    expression .lastWritten context truth field value =
      Store.value truth field
        (Expression.lower context field (Expression.ofValue value)).value := by
  cases value with
  | document fields =>
      rw [expression, modifiers_lastWritten, Store.all_counted_operators,
        Expression.ofValue, Expression.value_lower_modifiers, Store.value_unwrapRegex]
  | array items =>
      have other : membershipKey ≠ negationKey := by decide
      rw [expression, Expression.ofValue, Expression.lower, Reported.value_bind,
        Reported.value_pure, Store.value, Store.operators, Store.operators,
        Store.all_singleton, Store.operator_of_ne truth other]
  | _ => rfl

theorem field_lastWritten (name : String) (value : Value) :
    expression .lastWritten context truth name value =
      Store.entry truth name
        (Expression.lower context name (Expression.ofValue value)).value := by
  rw [expression_lastWritten,
    Store.entry_of_ne_array truth (Expression.lower_ofValue_ne_array context name value)]

theorem patterns_lastWritten (group : Document) :
    likeGroup .lastWritten context truth (.document group) =
      Keyed.mapEntries (Store.entry truth)
        (Clause.emittedPatterns context (group.map Clause.likePattern)).value := by
  rw [likeGroup]
  induction group with
  | nil => rfl
  | cons pattern rest ih =>
      rw [List.map_cons, List.map_cons, ih, Clause.likePattern_eq, field_lastWritten]
      rfl

theorem likeGroup_lastWritten (before : List String) (value : Value) :
    likeGroup .lastWritten context truth value =
      Keyed.mapEntries (Store.entry truth)
        (Clause.emittedOption context before (Clause.readLikeGroup value).value).value := by
  cases value with
  | document group => exact patterns_lastWritten context truth group
  | _ => rfl

mutual

/-- A clause document states what the level asks that it is written as. -/
theorem clause_lastWritten : ∀ (before : List String) (fields : List (String × Value)),
    clause .lastWritten context truth before fields =
      Keyed.mapEntries (Store.entry truth)
        (Clause.emitted context before (Clause.read fields).value).value
  | _, [] => rfl
  | before, (key, value) :: rest => by
      have here : entry .lastWritten context truth before key value =
          Keyed.mapEntries (Store.entry truth)
            (Clause.emittedOption context before (Clause.readEntry key value).value).value := by
        rw [entry, Clause.readEntry]
        cases ClauseKey.ofKey key with
        | logical operator => exact logical_lastWritten before key operator value
        | likeGroup => exact likeGroup_lastWritten context truth before value
        | field =>
            have stated := field_lastWritten context truth (Clause.nameAfter before key) value
            exact congrArg (fun condition => [(Clause.nameAfter before key, condition)]) stated
      rw [clause_cons, Clause.read_cons, Reported.value_bind, Reported.value_bind,
        Reported.value_pure, Clause.value_emitted_toList_append, Keyed.mapEntries_append,
        here, Keyed.keys_mapEntries, clause_lastWritten _ rest]

theorem logical_lastWritten (before : List String) (key : String)
    (operator : LogicalOperator) : ∀ value : Value,
    logical .lastWritten context truth operator value =
      Keyed.mapEntries (Store.entry truth)
        (Clause.emittedOption context before
          (Clause.readLogical key operator value).value).value
  | .array items => by
      rw [logical, elements_lastWritten items, ← Store.entry_logical]
      rfl
  | .string _ | .document _ | .double _ | .binary _ _ | .undefined | .objectId _
  | .boolean _ | .dateTime _ | .null | .regex _ | .dbPointer _ _ | .code _ | .symbol _
  | .codeWithScope _ _ | .int32 _ | .timestamp _ _ | .int64 _ | .decimal128 _
  | .maxKey | .minKey => rfl

theorem elements_lastWritten : ∀ items : List Value,
    elements .lastWritten context truth items =
      Store.elements truth
        (Clause.lowerClauses context (Clause.readElements items).value).value
  | [] => rfl
  | item :: rest => by
      rw [elements, elements_lastWritten rest, element_lastWritten item]
      rfl

theorem element_lastWritten : ∀ item : Value,
    element .lastWritten context truth item =
      Store.element truth
        (.document (Clause.lower context (Clause.readElement item).value).value)
  | .document fields => by
      rw [element, clause_lastWritten [] fields, Store.all_counted_clause, Store.element,
        Clause.lower_eq_ofList]
      rfl
  | .string _ | .array _ | .double _ | .binary _ _ | .undefined | .objectId _ | .boolean _
  | .dateTime _ | .null | .regex _ | .dbPointer _ _ | .code _ | .symbol _
  | .codeWithScope _ _ | .int32 _ | .timestamp _ _ | .int64 _ | .decimal128 _
  | .maxKey | .minKey => by
      exact (eq_true fun _ member => absurd member List.not_mem_nil).symm

end

/-! ## Levels without collisions

Where every level writes distinct names, the last condition under a name is the
only one, and the general name of the identity always stands for the identity. -/

/-- Under distinct names every condition is the last one. -/
theorem counted_of_nodup {conditions : Keyed Prop} (nodup : conditions.keys.Nodup) :
    Rule.lastWritten.counted conditions = Rule.plain.counted conditions :=
  Keyed.ofList_of_nodup nodup

theorem operand_key (field : String) (modifier : Modifier) (value : Value)
    (notNested : modifier = .not → ∀ fields, value ≠ .document fields) :
    (operand context truth field modifier value).1 = modifierKey modifier value := by
  cases modifier with
  | not =>
      cases value with
      | document fields => exact absurd rfl (notNested rfl fields)
      | _ => rfl
  | text kind =>
      cases text : Pattern.operandText? value <;> simp [operand, modifierKey, text]
  | comparison comparison => rfl
  | verbatim key => rfl

theorem modifier_key (rule : Rule) (field : String) (spelled : Modifier) (value : Value) :
    (modifier rule context truth field spelled value).1 = modifierKey spelled value := by
  cases value with
  | document fields =>
      by_cases negated : spelled = .not
      · subst negated
        rfl
      · rw [modifier, if_neg negated]
        exact operand_key context truth field spelled _ fun same => absurd same negated
  | _ => exact operand_key context truth field spelled _ fun _ _ => Value.noConfusion

theorem keys_modifiers (rule : Rule) (field : String) (fields : Document) :
    Keyed.keys (modifiers rule context truth field fields) = modifierKeys fields := by
  induction fields with
  | nil => rfl
  | cons entry rest ih =>
      obtain ⟨key, value⟩ := entry
      have first := modifier_key context truth rule field (Modifier.resolve key value) value
      simp only [Keyed.keys, modifierKeys, modifiers, List.map_cons] at ih ⊢
      rw [ih, first]

theorem modifier_agree (field : String) (spelled : Modifier) (value : Value)
    (agree : spelled = .not → expression .lastWritten context truth field value =
      expression .plain context truth field value) :
    modifier .lastWritten context truth field spelled value =
      modifier .plain context truth field spelled value := by
  cases value with
  | document fields =>
      by_cases negated : spelled = .not
      · rw [modifier, modifier, if_pos negated, if_pos negated]
        exact congrArg (fun holds => (negationKey, ¬holds)) (agree negated)
      · rw [modifier, modifier, if_neg negated, if_neg negated]
  | _ => rfl

mutual

theorem expression_agree (field : String) : ∀ value : Value, distinctExpression value = true →
    expression .lastWritten context truth field value =
      expression .plain context truth field value
  | .document fields, distinct => by
      obtain ⟨nodup, operands⟩ := Bool.and_eq_true_iff.1 distinct
      have keys := keys_modifiers context truth .plain field fields
      rw [expression, expression, modifiers_agree field fields operands]
      rw [counted_of_nodup (keys ▸ of_decide_eq_true nodup)]
  | .string _, _ | .array _, _ | .double _, _ | .binary _ _, _ | .undefined, _
  | .objectId _, _ | .boolean _, _ | .dateTime _, _ | .null, _ | .regex _, _
  | .dbPointer _ _, _ | .code _, _ | .symbol _, _ | .codeWithScope _ _, _ | .int32 _, _
  | .timestamp _ _, _ | .int64 _, _ | .decimal128 _, _ | .maxKey, _ | .minKey, _ => rfl

theorem modifiers_agree (field : String) : ∀ fields : List (String × Value),
    distinctOperands fields = true →
    modifiers .lastWritten context truth field fields =
      modifiers .plain context truth field fields
  | [], _ => rfl
  | (key, value) :: rest, distinct => by
      obtain ⟨here, later⟩ := Bool.and_eq_true_iff.1 distinct
      have first := modifier_agree context truth field (Modifier.resolve key value) value
        fun negated => expression_agree field value (by rwa [if_pos negated] at here)
      rw [modifiers, modifiers, first, modifiers_agree field rest later]

end

theorem likeGroup_agree (value : Value) :
    likeGroup .lastWritten context truth value = likeGroup .plain context truth value := by
  cases value with
  | document fields =>
      refine List.map_congr_left fun pattern _ => ?_
      have distinct : distinctExpression (.document [("like", pattern.2)]) = true := rfl
      rw [expression_agree context truth pattern.1 _ distinct]
  | _ => rfl

theorem keys_entry (before : List String) (key : String) (value : Value) :
    Keyed.keys (entry .plain context truth before key value) = entryNames key value := by
  unfold entry entryNames
  cases ClauseKey.ofKey key with
  | logical operator => cases value <;> rfl
  | likeGroup =>
      cases value with
      | document fields => simp [likeGroup, Keyed.keys]
      | _ => rfl
  | field => rfl

theorem keys_clause (before : List String) (fields : Document) :
    Keyed.keys (clause .plain context truth before fields) = outputNames fields := by
  induction fields generalizing before with
  | nil => rfl
  | cons first rest ih =>
      obtain ⟨key, value⟩ := first
      rw [clause_cons, Keyed.keys_append, keys_entry, ih]
      rfl

theorem nameAfter_of_apart {before : List String} {key : String}
    (apart : identityField ∈ before → identityField ≠ storeName key) :
    Clause.nameAfter before key = storeName key := by
  unfold Clause.nameAfter storeName at *
  by_cases general : key = identityAlias
  · rw [if_pos general] at apart ⊢
    exact if_pos ⟨general, fun earlier => apart earlier rfl⟩
  · rw [if_neg general]
    exact if_neg fun both => general both.1

mutual

/-- Where names are distinct, the two rules read a level alike. -/
theorem clause_agree : ∀ (before named : List String) (fields : List (String × Value)),
    distinctEntries fields = true → (outputNames fields).Nodup →
    (identityField ∈ before → identityField ∉ outputNames fields) →
    clause .lastWritten context truth before fields =
      clause .plain context truth named fields
  | _, _, [], _, _, _ => rfl
  | before, named, (key, value) :: rest, distinct, nodup, apart => by
      obtain ⟨hereDistinct, restDistinct⟩ := Bool.and_eq_true_iff.1 distinct
      have names : outputNames ((key, value) :: rest) =
          entryNames key value ++ outputNames rest := rfl
      rw [names] at nodup apart
      obtain ⟨-, restNodup, disjoint⟩ := List.nodup_append.1 nodup
      have here : entry .lastWritten context truth before key value =
          entry .plain context truth named key value := by
        unfold entry
        cases kind : ClauseKey.ofKey key with
        | logical operator =>
            rw [kind] at hereDistinct
            exact logical_agree operator value hereDistinct
        | likeGroup => exact likeGroup_agree context truth value
        | field =>
            rw [kind] at hereDistinct
            have written : storeName key ∈ entryNames key value := by
              unfold entryNames
              rw [kind]
              exact List.mem_cons_self
            have sameName : Clause.nameAfter before key = storeName key :=
              nameAfter_of_apart fun earlier same =>
                apart earlier (List.mem_append_left _ (same ▸ written))
            have stated := expression_agree context truth (storeName key) value hereDistinct
            show [(Clause.nameAfter before key, expression .lastWritten context truth
              (Clause.nameAfter before key) value)] = _
            rw [sameName, stated]
            rfl
      have restApart : identityField ∈ before ++ entryNames key value →
          identityField ∉ outputNames rest := by
        intro member later
        rcases List.mem_append.1 member with earlier | here
        · exact apart earlier (List.mem_append_right _ later)
        · exact disjoint identityField here identityField later rfl
      rw [clause_cons, clause_cons, here, keys_entry]
      rw [clause_agree (before ++ entryNames key value) _ rest restDistinct restNodup restApart]

theorem logical_agree (operator : LogicalOperator) : ∀ value : Value,
    distinctLogical value = true →
    logical .lastWritten context truth operator value =
      logical .plain context truth operator value
  | .array items, distinct => by
      rw [logical, logical, elements_agree items distinct]
  | .string _, _ | .document _, _ | .double _, _ | .binary _ _, _ | .undefined, _
  | .objectId _, _ | .boolean _, _ | .dateTime _, _ | .null, _ | .regex _, _
  | .dbPointer _ _, _ | .code _, _ | .symbol _, _ | .codeWithScope _ _, _ | .int32 _, _
  | .timestamp _ _, _ | .int64 _, _ | .decimal128 _, _ | .maxKey, _ | .minKey, _ => rfl

theorem elements_agree : ∀ items : List Value, distinctElements items = true →
    elements .lastWritten context truth items = elements .plain context truth items
  | [], _ => rfl
  | item :: rest, distinct => by
      obtain ⟨here, later⟩ := Bool.and_eq_true_iff.1 distinct
      rw [elements, elements, element_agree item here, elements_agree rest later]

theorem element_agree : ∀ item : Value, distinctElement item = true →
    element .lastWritten context truth item = element .plain context truth item
  | .document fields, distinct => by
      obtain ⟨nodup, entries⟩ := Bool.and_eq_true_iff.1 distinct
      have names := keys_clause context truth [] fields
      rw [element, element, clause_agree [] [] fields entries (of_decide_eq_true nodup)
        (fun member => absurd member List.not_mem_nil)]
      rw [counted_of_nodup (names ▸ of_decide_eq_true nodup)]
  | .string _, _ | .array _, _ | .double _, _ | .binary _ _, _ | .undefined, _
  | .objectId _, _ | .boolean _, _ | .dateTime _, _ | .null, _ | .regex _, _
  | .dbPointer _ _, _ | .code _, _ | .symbol _, _ | .codeWithScope _ _, _ | .int32 _, _
  | .timestamp _ _, _ | .int64 _, _ | .decimal128 _, _ | .maxKey, _ | .minKey, _ => rfl

end

end Stated

/-! ## Queries and criteria -/

/-- A query asks what the criteria state, if of several conditions under one name
the last one counts. Where no level writes a name twice it asks all that the
criteria state. -/
theorem whereQuery_meaning (value : Value) :
    (Store.element truth (.document (whereQuery context value).value) ↔
        Stated.element .lastWritten context truth value) ∧
      (distinctElement value = true →
        (Store.element truth (.document (whereQuery context value).value) ↔
          Stated.element .plain context truth value)) := by
  have lastWritten : Store.element truth (.document (whereQuery context value).value) =
      Stated.element .lastWritten context truth value := by
    rw [Stated.element_lastWritten, value_whereQuery]
  refine ⟨iff_of_eq lastWritten, fun distinct => ?_⟩
  rw [lastWritten, Stated.element_agree context truth value distinct]

/-- The identity, a pattern below a negation and two comparisons of one field,
each under a name of its own. -/
theorem whereQuery_meaning_of_distinct :
    let context : Context := ⟨Schema.empty, {}⟩
    let truth : Truth := fun field operator _ => field = "_id" ∨ operator = "$gt"
    let criteria : Value := .document
      [("OR", .array
        [.document [("id", .string "a")],
          .document
            [("age", .document
              [("!", .document [("contains", .string "b")]), (">", .int32 1),
                ("lt", .int32 9)])]])]
    distinctElement criteria = true ∧
      (Store.element truth (.document (whereQuery context criteria).value) ↔
        Stated.element .plain context truth criteria) :=
  ⟨by decide, (whereQuery_meaning _ _ _).2 (by decide)⟩

/-- Two conditions under one operator are not both asked: of `> 1` and `> 5` only
the last one is written. -/
theorem whereQuery_drops_overwritten_condition :
    let context : Context := ⟨Schema.empty, {}⟩
    let truth : Truth := fun _ _ operand => operand = .int32 5
    let criteria : Value := .document
      [("age", .document [(">", .int32 1), ("gt", .int32 5)])]
    ¬(Store.element truth (.document (whereQuery context criteria).value) ↔
      Stated.element .plain context truth criteria) := by
  intro context truth criteria same
  have written : (whereQuery context criteria).value =
      [("age", .document [("$gt", .int32 5)])] := rfl
  have asked : Store.element truth (.document (whereQuery context criteria).value) := by
    rw [written]
    intro entry member
    rw [List.mem_singleton.1 member]
    intro operator member
    rw [List.mem_singleton.1 member]
    rfl
  have stated := same.1 asked
  have first : Value.int32 1 = Value.int32 5 :=
    stated ("age", _) List.mem_cons_self ("$gt", _) List.mem_cons_self
  injection first with one_eq_five
  exact absurd one_eq_five (by decide)

end Criteria.Meaning
