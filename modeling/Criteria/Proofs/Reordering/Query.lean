import Criteria.Proofs.Meaning.Preservation
import Criteria.Proofs.Remarks
import Criteria.Proofs.Reordering.Expression

/-!
# Queries in another order

Where no level of a clause document writes a name twice, the name of a field does not
depend on its place: an identity is written under the store's name for it wherever it
stands. So the entries of every level can change places.
-/

namespace Criteria

namespace Clause

/-! ## Levels that write no name twice -/

theorem nameAfter_nil (key : String) : nameAfter [] key = Meaning.storeName key :=
  Meaning.Stated.nameAfter_of_apart fun earlier => absurd earlier List.not_mem_nil

theorem keys_entrySources (key : String) (value : Value) :
    Keyed.keys (entrySources [] key value) = Meaning.entryNames key value := by
  unfold entrySources Meaning.entryNames
  cases ClauseKey.ofKey key with
  | logical operator => cases value <;> rfl
  | likeGroup => cases value <;> simp [Keyed.keys]
  | field => simp [Keyed.keys, nameAfter_nil]

/-- The names that a clause document writes with their sources, where no entry
depends on those before it. -/
def ownSources (fields : Document) : Keyed Source :=
  fields.flatMap fun entry => entrySources [] entry.1 entry.2

theorem keys_ownSources (fields : Document) :
    Keyed.keys (ownSources fields) = Meaning.outputNames fields := by
  rw [Keyed.keys, ownSources, List.map_flatMap]
  exact List.flatMap_congr fun entry _ => keys_entrySources entry.1 entry.2

/-- Only a field looks at the names before it, and only for the identity. -/
theorem entrySources_of_apart {before : List String} {key : String} {value : Value}
    (apart : identityField ∈ before → identityField ∉ Meaning.entryNames key value) :
    entrySources before key value = entrySources [] key value := by
  cases kind : ClauseKey.ofKey key with
  | field =>
      have written : Meaning.storeName key ∈ Meaning.entryNames key value := by
        unfold Meaning.entryNames
        rw [kind]
        exact List.mem_cons_self
      have sameName : nameAfter before key = Meaning.storeName key :=
        Meaning.Stated.nameAfter_of_apart fun earlier same => apart earlier (same ▸ written)
      rw [entrySources_of_field kind, entrySources_of_field kind, sameName, nameAfter_nil]
  | logical operator =>
      unfold entrySources
      rw [kind]
      cases value <;> rfl
  | likeGroup =>
      unfold entrySources
      rw [kind]
      cases value <;> rfl

/-- With distinct names, no entry depends on those before it. -/
theorem sources_of_nodup {before : List String} {fields : Document}
    (nodup : (Meaning.outputNames fields).Nodup)
    (apart : identityField ∈ before → identityField ∉ Meaning.outputNames fields) :
    sources before fields = ownSources fields := by
  induction fields generalizing before with
  | nil => rfl
  | cons entry rest ih =>
      obtain ⟨key, value⟩ := entry
      have names : Meaning.outputNames ((key, value) :: rest) =
          Meaning.entryNames key value ++ Meaning.outputNames rest := rfl
      rw [names] at nodup apart
      obtain ⟨-, restNodup, disjoint⟩ := List.nodup_append.1 nodup
      have here : entrySources before key value = entrySources [] key value :=
        entrySources_of_apart fun earlier inEntry =>
          apart earlier (List.mem_append_left _ inEntry)
      -- the identity may come up in this entry or before it, but then in no later one
      have restApart : identityField ∈ before ++ Meaning.entryNames key value →
          identityField ∉ Meaning.outputNames rest := by
        intro member later
        rcases List.mem_append.1 member with earlier | inEntry
        · exact apart earlier (List.mem_append_right _ later)
        · exact disjoint identityField inEntry identityField later rfl
      rw [sources, here, keys_entrySources, ih restNodup restApart, ownSources, ownSources,
        List.flatMap_cons]

variable (context : Context)

/-- The translated entries of a clause document, where no entry depends on those
before it. -/
def translated (fields : Document) : Keyed (Reported Value) :=
  (ownSources fields).mapEntries fun name source => source.lower context name

theorem keys_translated (fields : Document) :
    Keyed.keys (translated context fields) = Meaning.outputNames fields := by
  rw [translated, Keyed.keys_mapEntries, keys_ownSources]

/-- A level that writes no name twice is translated entry by entry. -/
theorem lower_read_of_nodup {fields : Document} (nodup : (Meaning.outputNames fields).Nodup) :
    (lower context (read fields).value).value = translatedValues (translated context fields) ∧
      (lower context (read fields).value).diagnostics =
        translatedDiagnostics (translated context fields) := by
  have own : sources [] fields = ownSources fields :=
    sources_of_nodup nodup fun earlier => absurd earlier List.not_mem_nil
  have written : (lowerSources context (ownSources fields)).value =
      translatedValues (translated context fields) := by
    rw [value_lowerSources, translated, translatedValues, Keyed.mapEntries, Keyed.mapEntries,
      Keyed.mapEntries, List.map_map]
    rfl
  have keys : (Keyed.keys (translatedValues (translated context fields))).Nodup := by
    rw [translatedValues, Keyed.keys_mapEntries, keys_translated]
    exact nodup
  rw [lower_read, own]
  constructor
  · rw [Reported.value_map, written, Keyed.ofList_of_nodup keys]
  · rw [Reported.diagnostics_map, diagnostics_lowerSources, translatedDiagnostics, translated,
      Keyed.mapEntries, List.flatMap_map]

/-- Levels are written alike if their entries are and no two share a name. -/
theorem alike_of_translated {first second : Document}
    (nodup : (Meaning.outputNames first).Nodup)
    (alike : AlikeEntries .clause (translated context first) (translated context second)) :
    Alike .clause (Value.document <$> lower context (read first).value)
      (Value.document <$> lower context (read second).value) := by
  have names := alike.keys_perm
  rw [keys_translated, keys_translated] at names
  obtain ⟨firstValue, firstDiagnostics⟩ := lower_read_of_nodup context nodup
  obtain ⟨secondValue, secondDiagnostics⟩ :=
    lower_read_of_nodup context (names.nodup_iff.1 nodup)
  obtain ⟨moved, entries, order⟩ := alike.values
  constructor
  · rw [Reported.value_map, Reported.value_map, firstValue, secondValue]
    exact .document rfl entries order
  · rw [Reported.diagnostics_map, Reported.diagnostics_map, firstDiagnostics, secondDiagnostics]
    exact alike.diagnostics

/-! ## One entry of a level -/

theorem translated_cons (entry : String × Value) (rest : Document) :
    translated context (entry :: rest) = translated context [entry] ++ translated context rest := by
  simp only [translated, ownSources, List.flatMap_cons, List.flatMap_nil, List.append_nil,
    Keyed.mapEntries_append]

theorem queryPlaces_of_field {name : String} (isField : ClauseKey.ofKey name = .field) :
    queryPlaces .clause name = .modifiers := by
  have notLogical : ∀ key ∈ ["$or", "$and", "$nor"], name ≠ key := by
    rintro key member rfl
    have logical : ∀ key ∈ ["$or", "$and", "$nor"], ClauseKey.ofKey key ≠ .field := by decide
    exact logical _ member isField
  have notOr : name ≠ "$or" := notLogical _ (by decide)
  have notAnd : name ≠ "$and" := notLogical _ (by decide)
  have notNor : name ≠ "$nor" := notLogical _ (by decide)
  simp [queryPlaces, Meaning.Store.logical?, notOr, notAnd, notNor]

theorem translated_field_alike {key : String} (isField : ClauseKey.ofKey key = .field)
    {first second : Value} (reordered : Reordered criteriaPlaces .modifiers first second)
    (distinct : Meaning.distinctExpression first = true) :
    AlikeEntries .clause (translated context [(key, first)])
      (translated context [(key, second)]) := by
  have alike := Expression.lower_alike context (nameAfter [] key) reordered rfl distinct
  have place := queryPlaces_of_field (ofKey_nameAfter isField [])
  simp only [translated, ownSources, List.flatMap_singleton, entrySources_of_field isField]
  exact .singleton (place ▸ alike)

/-- The fields of a like group are translated one by one. -/
theorem translated_group_alike {key : String} (isGroup : ClauseKey.ofKey key = .likeGroup)
    {first second : Value} (reordered : Reordered criteriaPlaces .group first second) :
    AlikeEntries .clause (translated context [(key, first)])
      (translated context [(key, second)]) := by
  cases reordered with
  | same => exact .refl _ _
  | @document _ first moved second _ entries order =>
      have same : first = moved := entries.eq_of_fixed fun _ => rfl
      subst same
      simp only [translated, ownSources, List.flatMap_singleton,
        entrySources_of_likeGroup isGroup]
      exact .of_perm ((order.map _).map _)

theorem translated_elements_alike {key : String} {operator : LogicalOperator}
    (isLogical : ClauseKey.ofKey key = .logical operator) {first second : List Value}
    (values : ReorderedItems queryPlaces
      (lowerClauses context (readElements first).value).value
      (lowerClauses context (readElements second).value).value)
    (diagnostics : (lowerClauses context (readElements first).value).diagnostics.Perm
      (lowerClauses context (readElements second).value).diagnostics) :
    AlikeEntries .clause (translated context [(key, .array first)])
      (translated context [(key, .array second)]) := by
  have place : queryPlaces .clause operator.key = .elements := by
    cases operator <;> rfl
  simp only [translated, ownSources, List.flatMap_singleton, entrySources_of_logical isLogical]
  refine .singleton ?_
  rw [place]
  refine ⟨.array values, ?_⟩
  simpa [Source.lower] using diagnostics

/-! ## Reordered clause documents -/

theorem lowerClauses_readElements_cons (item : Value) (rest : List Value) :
    lowerClauses context (readElements (item :: rest)).value =
      (do
        let fields ← lower context (readElement item).value
        let more ← lowerClauses context (readElements rest).value
        pure (.document fields :: more)) := rfl

mutual

-- by induction on the reordering; its role is an index, hence a variable with an equation
theorem translated_alike : ∀ {role : Role} {first second : Document},
    ReorderedEntries criteriaPlaces role first second → role = .clause →
    Meaning.distinctEntries first = true →
    AlikeEntries .clause (translated context first) (translated context second)
  | _, _, _, .nil, _, _ => .refl .clause []
  | _, _, _, @ReorderedEntries.cons _ role key first second _ _ here later, isClause, distinct => by
      obtain ⟨hereDistinct, restDistinct⟩ := Bool.and_eq_true_iff.1 distinct
      have rest := translated_alike later isClause restDistinct
      rw [translated_cons context (key, first), translated_cons context (key, second)]
      refine .append ?_ rest
      have place : criteriaPlaces role key = (ClauseKey.ofKey key).role := by
        rw [isClause, criteriaPlaces]
      cases kind : ClauseKey.ofKey key with
      | logical operator =>
          rw [kind] at place hereDistinct
          exact elements_alike here place kind hereDistinct
      | likeGroup =>
          rw [place, kind] at here
          exact translated_group_alike context kind here
      | field =>
          rw [kind] at hereDistinct
          rw [place, kind] at here
          exact translated_field_alike context kind here hereDistinct

theorem elements_alike : ∀ {role : Role} {first second : Value},
    Reordered criteriaPlaces role first second → role = .elements →
    ∀ {key : String} {operator : LogicalOperator}, ClauseKey.ofKey key = .logical operator →
    Meaning.distinctLogical first = true →
    AlikeEntries .clause (translated context [(key, first)]) (translated context [(key, second)])
  | _, _, _, .same _ _, _, _, _, _, _ => .refl .clause _
  | _, _, _, .document unordered _ _, isElements, _, _, _, _ => by
      rw [isElements] at unordered
      cases unordered
  | _, _, _, .array items, _, _, _, isLogical, distinct => by
      obtain ⟨values, diagnostics⟩ := items_alike items distinct
      exact translated_elements_alike context isLogical values diagnostics

theorem items_alike : ∀ {first second : List Value}, ReorderedItems criteriaPlaces first second →
    Meaning.distinctElements first = true →
    ReorderedItems queryPlaces (lowerClauses context (readElements first).value).value
        (lowerClauses context (readElements second).value).value ∧
      (lowerClauses context (readElements first).value).diagnostics.Perm
        (lowerClauses context (readElements second).value).diagnostics
  | _, _, .nil, _ => ⟨.nil, List.Perm.refl []⟩
  | _, _, .cons here later, distinct => by
      obtain ⟨hereDistinct, restDistinct⟩ := Bool.and_eq_true_iff.1 distinct
      have alike := element_alike here rfl hereDistinct
      obtain ⟨values, diagnostics⟩ := items_alike later restDistinct
      rw [lowerClauses_readElements_cons, lowerClauses_readElements_cons]
      constructor
      · exact .cons alike.value values
      · simpa using alike.diagnostics.append diagnostics

/-- Reordered elements are written as reordered levels. -/
theorem element_alike : ∀ {role : Role} {first second : Value},
    Reordered criteriaPlaces role first second → role = .clause →
    Meaning.distinctElement first = true →
    Alike .clause (Value.document <$> lower context (readElement first).value)
      (Value.document <$> lower context (readElement second).value)
  | _, _, _, .same _ _, _, _ => .refl .clause _
  | _, _, _, .document _ entries order, isClause, distinct => by
      obtain ⟨nodup, entriesDistinct⟩ := Bool.and_eq_true_iff.1 distinct
      have moved := translated_alike entries isClause entriesDistinct
      exact alike_of_translated context (of_decide_eq_true nodup)
        (moved.perm ((order.flatMap_right _).map _))
  | _, _, _, .array _, isClause, _ => by cases isClause

end

end Clause

/-! ## Parts of the wrong shape -/

namespace Remarks

theorem shapes_eq_flatMap (fields : Document) :
    shapes fields = fields.flatMap fun entry => shapes [entry] := by
  induction fields with
  | nil => rfl
  | cons entry rest ih =>
      rw [List.flatMap_cons, ← ih, shapes, shapes, shapes, List.append_nil]

theorem groupShapes_eq {role : Role} {first second : Value}
    (reordered : Reordered criteriaPlaces role first second) (isGroup : role = .group) :
    groupShapes first = groupShapes second := by
  cases reordered with
  | same => rfl
  | document => rfl
  | array => cases isGroup

mutual

/-- Reordered clause documents have the same parts of the wrong shape. -/
theorem shapes_perm : ∀ {role : Role} {first second : Document},
    ReorderedEntries criteriaPlaces role first second → role = .clause →
    (shapes first).Perm (shapes second)
  | _, _, _, .nil, _ => List.Perm.refl []
  | _, _, _, @ReorderedEntries.cons _ role key first second _ _ here later, isClause => by
      have rest := shapes_perm later isClause
      rw [shapes, shapes]
      refine List.Perm.append ?_ rest
      have place : criteriaPlaces role key = (ClauseKey.ofKey key).role := by
        rw [isClause, criteriaPlaces]
      cases kind : ClauseKey.ofKey key with
      | logical operator =>
          rw [kind] at place
          exact logicalShapes_perm here place key
      | likeGroup =>
          rw [kind] at place
          exact List.Perm.of_eq (groupShapes_eq here place)
      | field => exact List.Perm.refl []

theorem logicalShapes_perm : ∀ {role : Role} {first second : Value},
    Reordered criteriaPlaces role first second → role = .elements → ∀ key : String,
    (logicalShapes key first).Perm (logicalShapes key second)
  | _, _, _, .same _ _, _, _ => List.Perm.refl _
  | _, _, _, .document _ _ _, _, _ => List.Perm.refl _
  | _, _, _, .array items, _, _ => elementsShapes_perm items

theorem elementsShapes_perm : ∀ {first second : List Value},
    ReorderedItems criteriaPlaces first second →
    (elementsShapes first).Perm (elementsShapes second)
  | _, _, .nil => List.Perm.refl []
  | _, _, .cons here later =>
      (elementShapes_perm here rfl).append (elementsShapes_perm later)

theorem elementShapes_perm : ∀ {role : Role} {first second : Value},
    Reordered criteriaPlaces role first second → role = .clause →
    (elementShapes first).Perm (elementShapes second)
  | _, _, _, .same _ _, _ => List.Perm.refl _
  | _, _, _, @Reordered.document _ _ first moved second _ entries order, isClause => by
      have pointwise := shapes_perm entries isClause
      have moves : (shapes moved).Perm (shapes second) := by
        rw [shapes_eq_flatMap moved, shapes_eq_flatMap second]
        exact order.flatMap_right _
      exact pointwise.trans moves
  | _, _, _, .array _, isClause => by cases isClause

end

end Remarks

/-! ## Whole queries -/

/-- The order of entries does not matter: where no level of some criteria writes a
name twice, and no modifier map a key, the same criteria in another order give the
same query in another order, with the same diagnostics. -/
theorem whereQuery_reordered (context : Context) {first second : Value}
    (distinct : Meaning.distinctElement first = true)
    (reordered : Reordered criteriaPlaces .clause first second) :
    Reordered queryPlaces .clause (.document (whereQuery context first).value)
        (.document (whereQuery context second).value) ∧
      (whereQuery context first).diagnostics.Perm (whereQuery context second).diagnostics := by
  have alike := Clause.element_alike context reordered rfl distinct
  have shapes := Remarks.elementShapes_perm reordered rfl
  have lowered := alike.diagnostics
  rw [Reported.diagnostics_map, Reported.diagnostics_map] at lowered
  constructor
  · rw [value_whereQuery, value_whereQuery]
    exact alike.value
  · cases reordered with
    | same => exact List.Perm.refl _
    | document =>
        rw [whereQuery, whereQuery, Reported.diagnostics_bind, Reported.diagnostics_bind,
          Clause.diagnostics_read, Clause.diagnostics_read]
        exact shapes.append lowered

/-- Clause documents, a like group and modifier maps, each in the opposite order. -/
theorem whereQuery_reordered_of_opposite_orders :
    let context : Context := ⟨Schema.ofList [("_id", .integer), ("age", .integer)], {}⟩
    let first : Value := .document
      [("id", .string "x"),
        ("or", .array [.document
          [("age", .document
              [("!", .document [("gt", .string "y"), ("lt", .int32 9)]), ("<", .int32 5)]),
            ("name", .null)]]),
        ("like", .document [("street", .string "p"), ("city", .string "q")]),
        ("$and", .int32 7)]
    let second : Value := .document
      [("$and", .int32 7),
        ("like", .document [("city", .string "q"), ("street", .string "p")]),
        ("or", .array [.document
          [("name", .null),
            ("age", .document
              [("<", .int32 5), ("!", .document [("lt", .int32 9), ("gt", .string "y")])])]]),
        ("id", .string "x")]
    Meaning.distinctElement first = true ∧ Reordered criteriaPlaces .clause first second ∧
      Reordered queryPlaces .clause (.document (whereQuery context first).value)
        (.document (whereQuery context second).value) ∧
      (whereQuery context first).diagnostics.Perm (whereQuery context second).diagnostics := by
  intro context first second
  have distinct : Meaning.distinctElement first = true := by decide
  have negated : Reordered criteriaPlaces .modifiers
      (.document [("gt", .string "y"), ("lt", .int32 9)])
      (.document [("lt", .int32 9), ("gt", .string "y")]) :=
    .document rfl (.cons (.same _ _) (.cons (.same _ _) .nil)) (List.Perm.swap _ _ _)
  have age : Reordered criteriaPlaces .modifiers
      (.document [("!", .document [("gt", .string "y"), ("lt", .int32 9)]), ("<", .int32 5)])
      (.document [("<", .int32 5), ("!", .document [("lt", .int32 9), ("gt", .string "y")])]) :=
    .document rfl (.cons negated (.cons (.same _ _) .nil)) (List.Perm.swap _ _ _)
  have group : Reordered criteriaPlaces .group
      (.document [("street", .string "p"), ("city", .string "q")])
      (.document [("city", .string "q"), ("street", .string "p")]) :=
    .document rfl (.cons (.same _ _) (.cons (.same _ _) .nil)) (List.Perm.swap _ _ _)
  have reordered : Reordered criteriaPlaces .clause first second := by
    refine .document rfl (.cons (.same _ _) (.cons (.array (.cons ?_ .nil))
      (.cons group (.cons (.same _ _) .nil)))) (List.reverse_perm _).symm
    exact .document rfl (.cons age (.cons (.same _ _) .nil)) (List.Perm.swap _ _ _)
  exact ⟨distinct, reordered, whereQuery_reordered context distinct reordered⟩

end Criteria
