import Criteria.Proofs.Clause.Diagnostics
import Criteria.Proofs.Outline.Expression

/-!
# What texts cannot change in a query

Criteria that are the same once their strings are blank give queries with one
outline, and the same remarks on their shape. So no text can put a name, an operator
or a container into a query.
-/

namespace Criteria

open Value

/-! ## Reading -/

namespace Clause

mutual

/-- The remarks on the shape of a clause document do not depend on strings. -/
theorem diagnostics_read_blank : ∀ fields : List (String × Value),
    (read (blankFields fields)).diagnostics = (read fields).diagnostics
  | [] => rfl
  | (key, value) :: rest => by
      have here : (readEntry key value.blank).diagnostics =
          (readEntry key value).diagnostics := by
        unfold readEntry
        cases ClauseKey.ofKey key with
        | logical operator => exact diagnostics_readLogical_blank key operator value
        | likeGroup => cases value <;> rfl
        | field => rfl
      have later := diagnostics_read_blank rest
      rw [blankFields, read_cons, read_cons]
      simp only [Reported.diagnostics_bind, Reported.diagnostics_pure, here, later]

theorem diagnostics_readLogical_blank (key : String) (operator : LogicalOperator) :
    ∀ value : Value, (readLogical key operator value.blank).diagnostics =
      (readLogical key operator value).diagnostics
  | .array items => by
      have elements := diagnostics_readElements_blank items
      rw [blank, readLogical, readLogical, Reported.diagnostics_bind,
        Reported.diagnostics_bind, elements]
      rfl
  | .string _ | .document _ | .double _ | .binary _ _ | .undefined | .objectId _
  | .boolean _ | .dateTime _ | .null | .regex _ | .dbPointer _ _ | .code _ | .symbol _
  | .codeWithScope _ _ | .int32 _ | .timestamp _ _ | .int64 _ | .decimal128 _
  | .maxKey | .minKey => rfl

theorem diagnostics_readElements_blank : ∀ items : List Value,
    (readElements (blankItems items)).diagnostics = (readElements items).diagnostics
  | [] => rfl
  | item :: rest => by
      have here := diagnostics_readElement_blank item
      have later := diagnostics_readElements_blank rest
      simp only [blankItems, readElements, Reported.diagnostics_bind,
        Reported.diagnostics_pure, here, later]

theorem diagnostics_readElement_blank : ∀ item : Value,
    (readElement item.blank).diagnostics = (readElement item).diagnostics
  | .document fields => diagnostics_read_blank fields
  | .string _ | .array _ | .double _ | .binary _ _ | .undefined | .objectId _
  | .boolean _ | .dateTime _ | .null | .regex _ | .dbPointer _ _ | .code _ | .symbol _
  | .codeWithScope _ _ | .int32 _ | .timestamp _ _ | .int64 _ | .decimal128 _
  | .maxKey | .minKey => rfl

end

/-! ## Lowering -/

variable (context : Context)

theorem outlineFields_emittedPatterns (fields : Document) :
    outlineFields (emittedPatterns context ((blankFields fields).map likePattern)).value =
      outlineFields (emittedPatterns context (fields.map likePattern)).value := by
  induction fields with
  | nil => rfl
  | cons entry rest ih =>
      obtain ⟨name, value⟩ := entry
      have here := Expression.outline_lower context name (.document [("like", value)])
      simp only [blank, blankFields] at here
      simp only [blankFields, List.map_cons, likePattern_eq, emittedPatterns,
        Reported.value_bind, Reported.value_pure, outlineFields, here, ih]

mutual

theorem outlineFields_emitted (before : List String) : ∀ fields : List (String × Value),
    outlineFields (emitted context before (read (blankFields fields)).value).value =
      outlineFields (emitted context before (read fields).value).value
  | [] => rfl
  | (key, value) :: rest => by
      have here : outlineFields
            (emittedOption context before (readEntry key value.blank).value).value =
          outlineFields (emittedOption context before (readEntry key value).value).value := by
        unfold readEntry
        cases ClauseKey.ofKey key with
        | logical operator => exact outlineFields_readLogical before key operator value
        | likeGroup =>
            cases value with
            | document group => exact outlineFields_emittedPatterns context group
            | _ => rfl
        | field =>
            have asked := Expression.outline_lower context (nameAfter before key) value
            exact congrArg (fun outline => [(nameAfter before key, outline)]) asked
      -- the same outlines stand under the same names
      have names := congrArg Keyed.keys here
      rw [keys_outlineFields, keys_outlineFields] at names
      rw [blankFields, read_cons, read_cons]
      simp only [Reported.value_bind, Reported.value_pure, value_emitted_toList_append,
        outlineFields_append, here, names, outlineFields_emitted _ rest]

theorem outlineFields_readLogical (before : List String) (key : String)
    (operator : LogicalOperator) : ∀ value : Value,
    outlineFields
        (emittedOption context before (readLogical key operator value.blank).value).value =
      outlineFields (emittedOption context before (readLogical key operator value).value).value
  | .array items => by
      have elements := outlineItems_lowerClauses items
      exact congrArg (fun outlines => [(operator.key, Outline.array outlines)]) elements
  | .string _ | .document _ | .double _ | .binary _ _ | .undefined | .objectId _
  | .boolean _ | .dateTime _ | .null | .regex _ | .dbPointer _ _ | .code _ | .symbol _
  | .codeWithScope _ _ | .int32 _ | .timestamp _ _ | .int64 _ | .decimal128 _
  | .maxKey | .minKey => rfl

theorem outlineItems_lowerClauses : ∀ items : List Value,
    outlineItems (lowerClauses context (readElements (blankItems items)).value).value =
      outlineItems (lowerClauses context (readElements items).value).value
  | [] => rfl
  | item :: rest => by
      have here := outlineFields_lower item
      have later := outlineItems_lowerClauses rest
      simp only [lower] at here
      simp only [blankItems, readElements, Reported.value_bind, Reported.value_pure,
        lowerClauses, outlineItems, outline, here, later]

/-- Conditions have an outline that no string changes. -/
theorem outlineFields_lower : ∀ item : Value,
    outlineFields (lower context (readElement item.blank).value).value =
      outlineFields (lower context (readElement item).value).value
  | .document fields => by
      have written := outlineFields_emitted [] fields
      simp only [blank, readElement, lower_eq_ofList, Reported.value_map,
        outlineFields_ofList, written]
  | .string _ | .array _ | .double _ | .binary _ _ | .undefined | .objectId _
  | .boolean _ | .dateTime _ | .null | .regex _ | .dbPointer _ _ | .code _ | .symbol _
  | .codeWithScope _ _ | .int32 _ | .timestamp _ _ | .int64 _ | .decimal128 _
  | .maxKey | .minKey => rfl

end

end Clause

/-! ## Sort orders -/

theorem Sort.normalize_blank (fields : Document) :
    normalize (blankFields fields) = normalize fields := by
  have same : (blankFields fields).map (fun entry => (outputName entry.1, direction entry.2)) =
      fields.map fun entry => (outputName entry.1, direction entry.2) := by
    induction fields with
    | nil => rfl
    | cons entry rest ih =>
        obtain ⟨key, value⟩ := entry
        have sameDirection : direction value.blank = direction value := by
          cases value <;> rfl
        rw [blankFields, List.map_cons, List.map_cons, ih, sameDirection]
  rw [normalize, same, normalize]

theorem Sort.ofValue_blank (value : Value) : ofValue value.blank = ofValue value := by
  cases value with
  | document fields => exact congrArg pure (normalize_blank fields)
  | _ => rfl

/-! ## Queries -/

theorem structural_whereQuery_blank (context : Context) (value : Value) :
    structural (whereQuery context value.blank).diagnostics =
      structural (whereQuery context value).diagnostics := by
  cases value with
  | document fields =>
      rw [blank, structural_whereQuery, structural_whereQuery, Clause.diagnostics_read_blank]
  | _ => rfl

theorem entryQuery_blank (context : Context) (key : String) (value : Value) :
    (entryQuery context key value.blank).value.outline =
        (entryQuery context key value).value.outline ∧
      structural (entryQuery context key value.blank).diagnostics =
        structural (entryQuery context key value).diagnostics := by
  unfold entryQuery
  by_cases isWhere : key = whereKey
  · simp only [if_pos isWhere, Reported.value_map, Reported.diagnostics_map, outline,
      value_whereQuery, Clause.outlineFields_lower, structural_whereQuery_blank, and_self]
  · by_cases isSort : key = sortKey
    · simp only [if_neg isWhere, if_pos isSort, Sort.ofValue_blank, and_self]
    · simp only [if_neg isWhere, if_neg isSort]
      exact ⟨outline_blank value, rfl⟩

/-- A query has the outline, and the remarks on shape, of the query without strings. -/
theorem query_blank (context : Context) (criteria : Document) :
    outlineFields (query context (blankFields criteria)).value =
        outlineFields (query context criteria).value ∧
      structural (query context (blankFields criteria)).diagnostics =
        structural (query context criteria).diagnostics := by
  induction criteria with
  | nil => exact ⟨rfl, rfl⟩
  | cons entry rest ih =>
      obtain ⟨key, value⟩ := entry
      obtain ⟨here, hereStructural⟩ := entryQuery_blank context key value
      obtain ⟨later, laterStructural⟩ := ih
      simp only [blankFields, query, Reported.value_bind, Reported.value_pure,
        Reported.diagnostics_bind, Reported.diagnostics_pure, List.append_nil, outlineFields,
        structural_append, here, hereStructural, later, laterStructural, and_self]

/-- Criteria that differ in the contents of strings only give queries of one
outline, with the same structural diagnostics. -/
theorem query_outline_of_blank_eq (context : Context) {first second : Document}
    (same : blankFields first = blankFields second) :
    outlineFields (query context first).value = outlineFields (query context second).value ∧
      structural (query context first).diagnostics =
        structural (query context second).diagnostics := by
  obtain ⟨firstOutline, firstStructural⟩ := query_blank context first
  obtain ⟨secondOutline, secondStructural⟩ := query_blank context second
  rw [← firstOutline, ← secondOutline, ← firstStructural, ← secondStructural, same]
  exact ⟨rfl, rfl⟩

/-- A text that spells an operator and one that is an identifier stand where other
texts stand. -/
theorem query_outline_of_hostile_text :
    let context : Context := ⟨Schema.ofList [("age", .integer)], { objectIdIdentity := true }⟩
    let criteria (identity name age : String) : Document :=
      [("where", .document
        [("id", .string identity), ("name", .document [("contains", .string name)]),
          ("or", .array [.string age, .document [("age", .document [("!", .string age)])]])])]
    let first := criteria "0123456789abcdef01234567" "$or" "12"
    let second := criteria "" "a" "$regex"
    blankFields first = blankFields second ∧
      outlineFields (query context first).value = outlineFields (query context second).value ∧
      structural (query context first).diagnostics =
        structural (query context second).diagnostics :=
  ⟨rfl, query_outline_of_blank_eq _ rfl⟩

end Criteria
