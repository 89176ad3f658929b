import Criteria.Proofs.Clause.Sources

/-!
# Levels that write a name more than once

Several keys of a clause document may write one name: other spellings of a logical
operator, like groups, and the two names of the identity. A level holds each name at
the place where it is written first, with the value that is written to it last. So a
logical operator holds what its last array asks for, and each element of that array
is translated as if it were all that is asked.
-/

namespace Criteria.Clause

theorem keys_entrySources_of_likeGroup {key : String}
    (isGroup : ClauseKey.ofKey key = .likeGroup) (before : List String) (value : Value) :
    Keyed.keys (entrySources before key value) = Keyed.keys value.fields := by
  cases value with
  | document group =>
      rw [entrySources_of_likeGroup isGroup, Keyed.keys, List.map_map]
      rfl
  | _ =>
      unfold entrySources
      rw [isGroup]
      rfl

/-! ## The names of the identity -/

/-- The general name is kept exactly where the store's name has been written before. -/
theorem nameAfter_eq_identityAlias_iff (before : List String) (key : String) :
    nameAfter before key = identityAlias ↔ key = identityAlias ∧ identityField ∈ before := by
  have distinct : identityField ≠ identityAlias := by decide
  unfold nameAfter
  by_cases named : key = identityAlias
  · by_cases written : identityField ∈ before <;> simp [named, written, distinct]
  · simp [named]

theorem identityField_mem_keys_sources {fields : Document}
    (general : identityAlias ∈ Keyed.keys fields) :
    identityField ∈ Keyed.keys (sources [] fields) := by
  obtain ⟨⟨key, value⟩, member, named⟩ := List.mem_map.1 general
  cases named
  obtain ⟨earlier, later, rfl⟩ := List.append_of_mem member
  by_cases written : identityField ∈ Keyed.keys (sources [] earlier)
  · rw [sources_append, Keyed.keys_append]
    exact List.mem_append_left _ written
  · have isField : ClauseKey.ofKey identityAlias = .field := by decide
    have name : nameAfter ([] ++ Keyed.keys (sources [] earlier)) identityAlias =
        identityField := if_pos ⟨rfl, written⟩
    refine mem_keys_sources_iff.2 ⟨earlier, identityAlias, value, later, rfl, ?_⟩
    rw [entrySources_of_field isField, name]
    exact List.mem_cons_self

/-- A level writes the general name of the identity for a like group that names it, or
for a field behind the store's name. -/
theorem identityAlias_mem_keys_sources_iff (fields : Document) :
    identityAlias ∈ Keyed.keys (sources [] fields) ↔
      (∃ entry ∈ fields, ClauseKey.ofKey entry.1 = .likeGroup ∧
          identityAlias ∈ Keyed.keys entry.2.fields) ∨
        ∃ earlier value later, fields = earlier ++ (identityAlias, value) :: later ∧
          identityField ∈ Keyed.keys (sources [] earlier) := by
  have notOperator : ∀ operator : LogicalOperator, identityAlias ≠ operator.key := by
    intro operator
    cases operator <;> decide
  have isField : ClauseKey.ofKey identityAlias = .field := by decide
  constructor
  · intro member
    obtain ⟨earlier, key, value, later, rfl, here⟩ := mem_keys_sources_iff.1 member
    obtain ⟨⟨name, source⟩, written, rfl⟩ := List.mem_map.1 here
    rcases mem_entrySources written with
      ⟨operator, items, -, -, named, -⟩ | ⟨pattern, isGroup, inGroup, -⟩ | ⟨-, named, -⟩
    · exact absurd named (notOperator operator)
    · refine Or.inl ⟨(key, value), ?_, isGroup, Keyed.mem_keys_of_mem inGroup⟩
      exact List.mem_append_right _ List.mem_cons_self
    · obtain ⟨rfl, behind⟩ := (nameAfter_eq_identityAlias_iff _ key).1 named.symm
      exact Or.inr ⟨earlier, value, later, rfl, behind⟩
  · rintro (⟨⟨key, value⟩, member, isGroup, inGroup⟩ | ⟨earlier, value, later, rfl, written⟩)
    · obtain ⟨earlier, later, rfl⟩ := List.append_of_mem member
      refine mem_keys_sources_iff.2 ⟨earlier, key, value, later, rfl, ?_⟩
      rw [keys_entrySources_of_likeGroup isGroup]
      exact inGroup
    · have name : nameAfter ([] ++ Keyed.keys (sources [] earlier)) identityAlias =
          identityAlias := (nameAfter_eq_identityAlias_iff _ _).2 ⟨rfl, written⟩
      refine mem_keys_sources_iff.2 ⟨earlier, identityAlias, value, later, rfl, ?_⟩
      rw [entrySources_of_field isField, name]
      exact List.mem_cons_self

/-! ## Levels in closed form -/

theorem Level.eq_ofList {context : Context} {criteria : Value} {fields written : Document}
    (level : Level context criteria fields written) :
    written = Keyed.ofList (lowerSources context (sources [] fields)).value := by
  rw [level.eq, value_whereQuery_eq, value_lowerSources, ← Keyed.mapEntries_ofList]
  rfl

/-- A level has the names that its clause document emits, each at the place of its
first emission and with the value of its last. With a field under the general name of
the identity it has the store's name, and it has the general name only for a like
group or for a field behind the store's name. -/
theorem level_closed_form {context : Context} {criteria : Value} {fields written : Document}
    (level : Level context criteria fields written) :
    let emitted := (lowerSources context (sources [] fields)).value
    Keyed.keys written = (Keyed.keys emitted).eraseDups ∧
      (∀ name value, (name, value) ∈ written ↔
        ∃ earlier later, emitted = earlier ++ (name, value) :: later ∧
          name ∉ Keyed.keys later) ∧
      (identityAlias ∈ Keyed.keys fields → identityField ∈ Keyed.keys written) ∧
      (identityAlias ∈ Keyed.keys written ↔
        (∃ entry ∈ fields, ClauseKey.ofKey entry.1 = .likeGroup ∧
            identityAlias ∈ Keyed.keys entry.2.fields) ∨
          ∃ earlier value later, fields = earlier ++ (identityAlias, value) :: later ∧
            identityField ∈ Keyed.keys (sources [] earlier)) := by
  intro emitted
  have names : Keyed.keys emitted = Keyed.keys (sources [] fields) :=
    (congrArg Keyed.keys (value_lowerSources context _)).trans (Keyed.keys_mapEntries _ _)
  have keys : Keyed.keys written = (Keyed.keys emitted).eraseDups := by
    rw [level.eq_ofList, Keyed.keys_ofList]
  have known (name : String) :
      name ∈ Keyed.keys written ↔ name ∈ Keyed.keys (sources [] fields) := by
    rw [keys, List.mem_eraseDups, names]
  refine ⟨keys, ?_, ?_, ?_⟩
  · intro name value
    rw [level.eq_ofList]
    exact Keyed.mem_ofList_iff emitted name value
  · intro general
    exact (known identityField).2 (identityField_mem_keys_sources general)
  · exact (known identityAlias).trans (identityAlias_mem_keys_sources_iff fields)

/-- Two spellings of a disjunction and both names of the identity at one level, and a
like group that names the identity behind them. -/
theorem level_closed_form_of_collisions :
    let context : Context := ⟨Schema.ofList [("_id", .integer)], {}⟩
    let element : Document :=
      [("id", .string "1"), ("OR", .array []), ("_id", .string "2"), ("$or", .array [.null]),
        ("like", .document [("id", .null)])]
    let criteria : Value := .document [("$nor", .array [.null, .document element])]
    let written := (whereQuery context (.document element)).value
    Level context criteria element written ∧
      Keyed.keys written = ["_id", "$or", "id"] ∧
      ("_id", .int32 2) ∈ written ∧ ("$or", .array [.document []]) ∈ written ∧
      identityField ∈ Keyed.keys written ∧ identityAlias ∈ Keyed.keys written := by
  intro context element criteria written
  have inner : Level context criteria (Value.document element).fields written :=
    .element .whole List.mem_cons_self List.mem_cons_self
      (List.mem_cons_of_mem _ List.mem_cons_self)
  have emitted : (lowerSources context (sources [] element)).value =
      [("_id", .int32 1), ("$or", .array []), ("_id", .int32 2),
        ("$or", .array [.document []]), ("id", .document [("like", .null)])] := rfl
  have group : ("like", Value.document [("id", .null)]) ∈ element := by
    simp [element]
  obtain ⟨keys, values, identity, general⟩ := level_closed_form inner
  rw [show (Value.document element).fields = element from rfl, emitted] at keys values
  refine ⟨inner, keys, ?_, ?_, ?_, ?_⟩
  · exact (values _ _).2 ⟨[_, _], [_, _], rfl, by decide⟩
  · exact (values _ _).2 ⟨[_, _, _], [_], rfl, by decide⟩
  · exact identity List.mem_cons_self
  · exact general.2 (Or.inl ⟨_, group, rfl, List.mem_cons_self⟩)

/-! ## Logical operators -/

theorem operator_eq_of_key_eq {first second : LogicalOperator}
    (same : first.key = second.key) : first = second := by
  revert same
  cases first <;> cases second <;> decide

/-- A logical key is written only by a spelling of it or as a member of a like group. -/
theorem operator_key_not_mem_sources {operator : LogicalOperator} {fields : Document}
    (unspelled : ∀ entry ∈ fields, ClauseKey.ofKey entry.1 ≠ .logical operator)
    (groups : ∀ entry ∈ fields, ClauseKey.ofKey entry.1 = .likeGroup →
      operator.key ∉ Keyed.keys entry.2.fields) (before : List String) :
    operator.key ∉ Keyed.keys (sources before fields) := by
  intro member
  obtain ⟨earlier, key, value, later, rfl, here⟩ := mem_keys_sources_iff.1 member
  obtain ⟨⟨name, source⟩, written, rfl⟩ := List.mem_map.1 here
  have inFields : (key, value) ∈ earlier ++ (key, value) :: later :=
    List.mem_append_right _ List.mem_cons_self
  rcases mem_entrySources written with
    ⟨other, items, isLogical, -, named, -⟩ | ⟨pattern, isGroup, inGroup, -⟩ | ⟨isField, named, -⟩
  · exact unspelled _ inFields (operator_eq_of_key_eq named ▸ isLogical)
  · exact groups _ inFields isGroup (Keyed.mem_keys_of_mem inGroup)
  · have asField := ofKey_nameAfter isField (before ++ Keyed.keys (sources before earlier))
    rw [← named] at asField
    revert asField
    cases operator <;> decide

/-- A logical operator is written from the last array that is asked of it. -/
theorem get?_lastSources_of_logical {before after : Document} {key : String}
    {operator : LogicalOperator} (isLogical : ClauseKey.ofKey key = .logical operator)
    (last : ∀ entry ∈ after, ClauseKey.ofKey entry.1 ≠ .logical operator)
    (groups : ∀ entry ∈ after, ClauseKey.ofKey entry.1 = .likeGroup →
      operator.key ∉ Keyed.keys entry.2.fields) (items : List Value) :
    Keyed.get? operator.key (lastSources (before ++ (key, .array items) :: after)) =
      some (.elements items) := by
  have absent := operator_key_not_mem_sources last groups
  rw [lastSources, sources_append, sources, entrySources_of_logical isLogical,
    Keyed.get?_ofList_append, Keyed.get?_ofList_append,
    Keyed.get?_ofList_eq_none (absent _), Option.none_or]
  simp [Keyed.ofList, Keyed.insertAll, Keyed.insert, Keyed.get?]

theorem value_query_where (context : Context) (value : Value) :
    (query context [(whereKey, value)]).value =
      [(whereKey, .document (whereQuery context value).value)] := by
  simp [query, entryQuery]

/-- Where the last key that spells a logical operator stands over an array, the
operator holds one document for each of its elements, in order: the query for that
element alone, which is empty for whatever is no document. -/
theorem level_elements {context : Context} {criteria : Value} {before after written : Document}
    {key : String} {operator : LogicalOperator} {items : List Value}
    (level : Level context criteria (before ++ (key, .array items) :: after) written)
    (isLogical : ClauseKey.ofKey key = .logical operator)
    (last : ∀ entry ∈ after, ClauseKey.ofKey entry.1 ≠ .logical operator)
    (groups : ∀ entry ∈ after, ClauseKey.ofKey entry.1 = .likeGroup →
      operator.key ∉ Keyed.keys entry.2.fields) :
    ∃ documents : List Document,
      Keyed.get? operator.key written = some (.array (documents.map .document)) ∧
        documents.length = items.length ∧
        ∀ (position : Nat) (item : Value), items[position]? = some item →
          ∃ document, documents[position]? = some document ∧
            (query context [(whereKey, item)]).value = [(whereKey, .document document)] ∧
            ((∀ fields, item ≠ .document fields) → document = []) := by
  refine ⟨items.map fun item => (whereQuery context item).value, ?_, ?_, ?_⟩
  · rw [level.get?_eq, get?_lastSources_of_logical isLogical last groups, Option.map_some,
      value_lower_elements, List.map_map]
    rfl
  · rw [List.length_map]
  · intro position item found
    refine ⟨(whereQuery context item).value, ?_, value_query_where context item, ?_⟩
    · rw [List.getElem?_map, found, Option.map_some]
    · intro notDocument
      cases item with
      | document fields => exact absurd rfl (notDocument fields)
      | _ => rfl

/-- A disjunction below a negated one, with an array that is asked for in vain, an
identity in front of it, and elements that are no documents. -/
theorem level_elements_of_nested_disjunction :
    let context : Context := ⟨Schema.ofList [("_id", .integer)], {}⟩
    let items : List Value :=
      [.document [("id", .string "1")], .null, .int32 5, .document [("id", .string "x")]]
    let before : Document := [("_id", .null), ("$or", .array [.null])]
    let after : Document := [("like", .document [("$and", .null)]), ("$nor", .array [])]
    let element : Document := before ++ ("OR", .array items) :: after
    let criteria : Value := .document [("$nor", .array [.null, .document element])]
    let written := (whereQuery context (.document element)).value
    Level context criteria element written ∧ ClauseKey.ofKey "OR" = .logical .or ∧
      ∃ documents : List Document,
        Keyed.get? "$or" written = some (.array (documents.map .document)) ∧
          documents.length = 4 ∧
          ∀ (position : Nat) (item : Value), items[position]? = some item →
            ∃ document, documents[position]? = some document ∧
              (query context [(whereKey, item)]).value = [(whereKey, .document document)] ∧
              ((∀ fields, item ≠ .document fields) → document = []) := by
  intro context items before after element criteria written
  have inner : Level context criteria (Value.document element).fields written :=
    .element .whole List.mem_cons_self List.mem_cons_self
      (List.mem_cons_of_mem _ List.mem_cons_self)
  have isLogical : ClauseKey.ofKey "OR" = .logical .or := by decide
  have last : ∀ entry ∈ after, ClauseKey.ofKey entry.1 ≠ .logical .or := by
    intro entry member
    have keys : ∀ key ∈ Keyed.keys after, ClauseKey.ofKey key ≠ .logical .or := by decide
    exact keys entry.1 (List.mem_map_of_mem member)
  have groups : ∀ entry ∈ after, ClauseKey.ofKey entry.1 = .likeGroup →
      LogicalOperator.or.key ∉ Keyed.keys entry.2.fields := by
    intro entry member isGroup
    rcases List.mem_cons.1 member with rfl | later
    · decide
    · rw [List.mem_singleton.1 later] at isGroup
      exact absurd isGroup (by decide)
  exact ⟨inner, isLogical, level_elements inner isLogical last groups⟩

end Criteria.Clause
