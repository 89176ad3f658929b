import Criteria.Proofs.Clause.Respelling
import Criteria.Proofs.Clause.Sources
import Criteria.Proofs.Settled.Query

/-!
# Like groups in full

A like group is short for one modifier map per name. Written out in its place, at any
level, it is read with the same remarks and is written from the same sources, so that the
query stays as it is: the names behind the group see the same names in front of them.
-/

namespace Criteria.Clause

/-! ## Parts of a clause document in a row -/

theorem read_append (first second : Document) :
    read (first ++ second) =
      (do
        let here ← read first
        let more ← read second
        pure (here ++ more)) := by
  induction first with
  | nil => exact Reported.eq_of_parts rfl (List.append_nil _).symm
  | cons entry rest ih =>
      obtain ⟨key, value⟩ := entry
      rw [List.cons_append, read_cons, read_cons, ih]
      apply Reported.eq_of_parts
      · simp only [Reported.value_bind, Reported.value_pure, List.append_assoc]
      · simp only [Reported.diagnostics_bind, Reported.diagnostics_pure, List.append_nil,
          List.append_assoc]

theorem keys_lowerSources (context : Context) (sources : Keyed Source) :
    Keyed.keys (lowerSources context sources).value = Keyed.keys sources := by
  rw [value_lowerSources, Keyed.keys_mapEntries]

/-- Parts of clause documents that are read with the same remarks and write the same,
whatever stands in front of them. -/
structure Interchangeable (context : Context) (first second : Document) : Prop where
  remarks : (read first).diagnostics = (read second).diagnostics
  written (before : List String) :
    lowerSources context (sources before first) = lowerSources context (sources before second)

namespace Interchangeable

variable {context : Context} {first second : Document}

theorem keys_eq (same : Interchangeable context first second) (before : List String) :
    Keyed.keys (sources before first) = Keyed.keys (sources before second) := by
  rw [← keys_lowerSources context, same.written before, keys_lowerSources]

/-- What stands around the parts does not matter. -/
theorem around (same : Interchangeable context first second) (earlier later : Document) :
    Interchangeable context (earlier ++ (first ++ later)) (earlier ++ (second ++ later)) where
  remarks := by
    simp only [read_append, Reported.diagnostics_bind, Reported.diagnostics_pure, same.remarks]
  written before := by
    simp only [sources_append, lowerSources_append, same.written, same.keys_eq]

theorem lower_eq (same : Interchangeable context first second) :
    lower context (read first).value = lower context (read second).value := by
  rw [lower_read, lower_read, same.written]

theorem whereQuery_eq (same : Interchangeable context first second) :
    whereQuery context (.document first) = whereQuery context (.document second) := by
  apply Reported.eq_of_parts
  · simp only [whereQuery, Reported.value_bind, same.lower_eq]
  · simp only [whereQuery, Reported.diagnostics_bind, same.remarks, same.lower_eq]

/-! ### Elements of a logical operator -/

theorem remarks_elements (same : Interchangeable context first second) (front back : List Value) :
    (readElements (front ++ .document first :: back)).diagnostics =
      (readElements (front ++ .document second :: back)).diagnostics := by
  induction front with
  | nil =>
      simp only [List.nil_append, readElements, readElement, Reported.diagnostics_bind,
        same.remarks]
      rfl
  | cons item rest ih =>
      simp only [List.cons_append, readElements, Reported.diagnostics_bind, ih]
      rfl

theorem lower_elements (same : Interchangeable context first second) (front back : List Value) :
    lowerClauses context (readElements (front ++ .document first :: back)).value =
      lowerClauses context (readElements (front ++ .document second :: back)).value := by
  induction front with
  | nil =>
      have lowered : lowerEntries context (read first).value [] =
          lowerEntries context (read second).value [] := same.lower_eq
      simp only [List.nil_append, readElements, readElement, Reported.value_bind,
        Reported.value_pure, lowerClauses, lowered]
  | cons item rest ih =>
      simp only [List.cons_append, readElements, Reported.value_bind, Reported.value_pure,
        lowerClauses, ih]

/-- An element of a logical operator is a clause document of its own. -/
theorem inElements (same : Interchangeable context first second) {key : String}
    {operator : LogicalOperator} (isLogical : ClauseKey.ofKey key = .logical operator)
    (front back : List Value) :
    Interchangeable context [(key, .array (front ++ .document first :: back))]
      [(key, .array (front ++ .document second :: back))] where
  remarks := by
    simp only [read_cons, readEntry, isLogical, readLogical, Reported.diagnostics_bind,
      Reported.diagnostics_pure, same.remarks_elements front back]
  written before := by
    have source (items : List Value) :
        sources before [(key, .array items)] = [(operator.key, .elements items)] := by
      simp only [sources, entrySources_of_logical isLogical, List.append_nil]
    simp only [source, lowerSources, Source.lower, same.lower_elements front back]

end Interchangeable

/-! ## One modifier map per name -/

/-- The entry of a clause document that asks for one pattern of a like group. -/
def spelledOut (entry : String × Value) : String × Value :=
  (entry.1, .document [("like", entry.2)])

/-- The names of a plain group are written as they stand, also as keys of fields. -/
theorem plainGroup_cons {entry : String × Value} {rest : Document}
    (plain : plainGroup (.document (entry :: rest)) = true) :
    (∀ before, nameAfter before entry.1 = entry.1) ∧ ClauseKey.ofKey entry.1 = .field ∧
      plainGroup (.document rest) = true := by
  rw [plainGroup, List.all_cons, Bool.and_eq_true, decide_eq_true_eq] at plain
  obtain ⟨⟨notIdentity, notReserved⟩, later⟩ := plain
  have kept (before : List String) : nameAfter before entry.1 = entry.1 :=
    if_neg fun identity => notIdentity identity.1
  exact ⟨kept, ClauseKey.ofKey_of_not_reserved notReserved, later⟩

theorem diagnostics_read_spelledOut {group : Document}
    (plain : plainGroup (.document group) = true) :
    (read (group.map spelledOut)).diagnostics = [] := by
  induction group with
  | nil => rfl
  | cons entry rest ih =>
      obtain ⟨-, isField, later⟩ := plainGroup_cons plain
      rw [List.map_cons, spelledOut, read_cons, readEntry, isField]
      simp only [Reported.diagnostics_bind, Reported.diagnostics_pure, ih later, List.append_nil]

/-- A group written out has a field with a single pattern for each member. -/
theorem sources_spelledOut {group : Document} (plain : plainGroup (.document group) = true)
    (before : List String) :
    sources before (group.map spelledOut) =
      group.map fun entry => (entry.1, .field (.document [("like", entry.2)])) := by
  induction group generalizing before with
  | nil => rfl
  | cons entry rest ih =>
      obtain ⟨kept, isField, later⟩ := plainGroup_cons plain
      rw [List.map_cons, List.map_cons, spelledOut, sources, entrySources_of_field isField,
        kept, ih later]
      rfl

/-- A field of a like group is written as the modifier map that it is short for. -/
theorem lowerSources_patterns (context : Context) (group : Document) :
    lowerSources context (group.map fun entry => (entry.1, .pattern entry.2)) =
      lowerSources context
        (group.map fun entry => (entry.1, .field (.document [("like", entry.2)]))) := by
  induction group with
  | nil => rfl
  | cons entry rest ih =>
      simp only [List.map_cons, lowerSources, ih]
      rfl

theorem interchangeable_spelledOut (context : Context) {key : String}
    (isGroup : ClauseKey.ofKey key = .likeGroup) {group : Document}
    (plain : plainGroup (.document group) = true) :
    Interchangeable context [(key, .document group)] (group.map spelledOut) where
  remarks := by
    rw [diagnostics_read_spelledOut plain, read_cons, readEntry, isGroup]
    rfl
  written before := by
    rw [sources_spelledOut plain, sources, entrySources_of_likeGroup isGroup, sources,
      List.append_nil, lowerSources_patterns]

/-! ## Like groups at any level -/

/-- One like group of a clause document, at its own level or below a logical operator, is
written out in its place. -/
inductive SpelledOut : Document → Document → Prop
  | here {key : String} {group : Document} (isGroup : ClauseKey.ofKey key = .likeGroup)
      (plain : plainGroup (.document group) = true) (earlier later : Document) :
      SpelledOut (earlier ++ (key, .document group) :: later)
        (earlier ++ (group.map spelledOut ++ later))
  | inside {key : String} {operator : LogicalOperator} {first second : Document}
      (isLogical : ClauseKey.ofKey key = .logical operator) (inner : SpelledOut first second)
      (front back : List Value) (earlier later : Document) :
      SpelledOut (earlier ++ (key, .array (front ++ .document first :: back)) :: later)
        (earlier ++ (key, .array (front ++ .document second :: back)) :: later)

/-- Writing a like group out, at whatever depth, changes neither remarks nor what is
written. -/
theorem SpelledOut.interchangeable (context : Context) {first second : Document}
    (spelled : SpelledOut first second) : Interchangeable context first second := by
  induction spelled with
  | here isGroup plain earlier later =>
      exact (interchangeable_spelledOut context isGroup plain).around earlier later
  | inside isLogical _ front back earlier later ih =>
      exact (ih.inElements isLogical front back).around earlier later

/-- Conditions in which a like group is written out give the same query, names in the
same order, with the same diagnostics. -/
theorem query_spelledOut (context : Context) {first second : Document}
    (spelled : SpelledOut first second) (before after : Document) :
    query context (before ++ (whereKey, .document first) :: after) =
      query context (before ++ (whereKey, .document second) :: after) := by
  have same := (spelled.interchangeable context).whereQuery_eq
  refine query_congr context ?_ before after
  rw [entryQuery, entryQuery, if_pos rfl, if_pos rfl, same]

/-- A group that names the identity between a text that cannot be read and a field under
the general name, below a negated disjunction. -/
theorem query_spelledOut_of_named_identity :
    let context : Context := ⟨Schema.ofList [("age", .integer)], {}⟩
    let group : Document := [("_id", .string "a%"), ("n", .null)]
    let front : Document := [("age", .string "x")]
    let back : Document := [("id", .string "y")]
    let first : Document :=
      [("$nor", .array [.null, .document (front ++ ("LIKE", .document group) :: back)])]
    let second : Document :=
      [("$nor", .array
        [.null, .document
          (front ++ ([("_id", .document [("like", .string "a%")]),
            ("n", .document [("like", .null)])] ++ back))])]
    let level : Document :=
      [("age", .double .nan), ("_id", .regex ⟨"^a.*$", "i"⟩), ("n", .document [("like", .null)]),
        ("id", .string "y")]
    SpelledOut first second ∧
      query context [(whereKey, .document first)] = query context [(whereKey, .document second)] ∧
      query context [(whereKey, .document second)] =
        ⟨[(whereKey, .document [("$nor", .array [.document [], .document level])])],
          [.unparsableNumber "age" .integer "x"]⟩ := by
  intro context group front back first second level
  have isGroup : ClauseKey.ofKey "LIKE" = .likeGroup := by decide
  have isLogical : ClauseKey.ofKey "$nor" = .logical .nor := by decide
  have plain : plainGroup (.document group) = true := by decide
  have spelled : SpelledOut first second :=
    .inside isLogical (.here isGroup plain front back) [.null] [] [] []
  refine ⟨spelled, query_spelledOut context spelled [] [], ?_⟩
  subst context group front back first second level
  rfl

end Criteria.Clause
