import Criteria.Proofs.Clause.Diagnostics
import Criteria.Proofs.Settled.Expression
import Criteria.Proofs.Sort

/-!
# A query is a query of itself

Every insertion into a level keeps it settled: names once each, every entry one
that is written again as it stands, and the identity before its general name. A
settled level is read without remark and lowered to itself.

Like groups write names as they stand, so that they could put the general name of
the identity, or the name of a logical operator, where it would be read otherwise
the next time. Criteria without such names are `plain`.
-/

namespace Criteria

/-! ## Plain criteria -/

/-- The lower-case keys that are read as no field. -/
def reservedKeys : List String := ["or", "$or", "$and", "$nor", "like"]

/-- Whether a like group names neither the identity by its general name nor a key
that is read as no field. -/
def plainGroup : Value → Bool
  | .document fields =>
    fields.all fun entry =>
      decide (entry.1 ≠ identityAlias ∧ Text.lowercase entry.1 ∉ reservedKeys)
  | _ => true

mutual

/-- Whether all like groups of a clause document, at any level, are plain. -/
def plainElement : Value → Bool
  | .document fields => plainEntries fields
  | _ => true

def plainEntries : List (String × Value) → Bool
  | [] => true
  | (key, value) :: rest =>
    (match ClauseKey.ofKey key with
      | .logical _ => plainLogical value
      | .likeGroup => plainGroup value
      | .field => true) && plainEntries rest

def plainLogical : Value → Bool
  | .array items => plainElements items
  | _ => true

def plainElements : List Value → Bool
  | [] => true
  | item :: rest => plainElement item && plainElements rest

end

theorem ClauseKey.ofLowercase_of_not_reserved {key : String} (free : key ∉ reservedKeys) :
    ofLowercase key = .field := by
  simp only [reservedKeys, List.mem_cons, List.not_mem_nil, or_false, not_or] at free
  obtain ⟨or, dollarOr, and, nor, like⟩ := free
  simp [ofLowercase, or, dollarOr, and, nor, like]

theorem ClauseKey.ofKey_of_not_reserved {key : String}
    (free : Text.lowercase key ∉ reservedKeys) : ofKey key = .field :=
  ofLowercase_of_not_reserved free

theorem ClauseKey.ofKey_operator (operator : LogicalOperator) :
    ofKey operator.key = .logical operator := by
  cases operator <;> decide

namespace Clause

/-! ## Settled levels -/

/-- A clause document that is read without remark and lowered to itself. -/
def Settled (context : Context) (written : Document) : Prop :=
  (read written).diagnostics = [] ∧
    (lower context (read written).value).value = written

/-- An entry that is written again as it stands. -/
inductive SettledEntry (context : Context) : String × Value → Prop
  | logical (operator : LogicalOperator) (documents : List Document)
      (settled : ∀ document ∈ documents, Settled context document) :
      SettledEntry context (operator.key, .array (documents.map .document))
  | field (name : String) (value : Value) (isField : ClauseKey.ofKey name = .field)
      (settled : (Expression.lower context name (Expression.ofValue value)).value = value) :
      SettledEntry context (name, value)

/-- What every insertion into a level keeps. -/
structure SettledLevel (context : Context) (written : Document) : Prop where
  nodup : (Keyed.keys written).Nodup
  entries : ∀ entry ∈ written, SettledEntry context entry
  identityFirst : ∀ before after,
    Keyed.keys written = before ++ identityAlias :: after → identityField ∈ before

theorem settledLevel_nil (context : Context) : SettledLevel context [] where
  nodup := List.Pairwise.nil
  entries _ member := absurd member List.not_mem_nil
  identityFirst before after shape := by
    cases before <;> cases shape

/-- A settled entry may be inserted, the general name of the identity only behind the
store's. -/
theorem SettledLevel.insert {context : Context} {written : Document}
    (level : SettledLevel context written) {key : String} {value : Value}
    (entry : SettledEntry context (key, value))
    (identity : key = identityAlias → identityField ∈ Keyed.keys written) :
    SettledLevel context (Keyed.insert written key value) where
  nodup := Keyed.nodup_keys_insert level.nodup key value
  entries other member := by
    rcases Keyed.eq_or_mem_of_mem_insert member with here | old
    · exact here ▸ entry
    · exact level.entries other old
  identityFirst before after shape := by
    rw [Keyed.keys_insert] at shape
    split at shape
    · exact level.identityFirst before after shape
    · rcases List.eq_nil_or_concat after with rfl | ⟨initial, last, rfl⟩
      · obtain ⟨rfl, same⟩ := List.append_inj' shape rfl
        exact identity (List.cons.inj same).1
      · rw [List.concat_eq_append, ← List.cons_append, ← List.append_assoc] at shape
        obtain ⟨kept, -⟩ := List.append_inj' shape rfl
        exact level.identityFirst before initial kept

/-! ## A settled level is lowered to itself -/

theorem readElements_settled {context : Context} (documents : List Document)
    (settled : ∀ document ∈ documents, Settled context document) :
    (readElements (documents.map .document)).diagnostics = [] ∧
      (lowerClauses context (readElements (documents.map .document)).value).value =
        documents.map .document := by
  induction documents with
  | nil => exact ⟨rfl, rfl⟩
  | cons document rest ih =>
      obtain ⟨hereRead, hereLowered⟩ := settled document List.mem_cons_self
      obtain ⟨restRead, restLowered⟩ :=
        ih fun other member => settled other (List.mem_cons_of_mem _ member)
      constructor
      · simp [readElements, readElement, hereRead, restRead]
      · simp only [List.map_cons, readElements, readElement, Reported.value_bind,
          Reported.value_pure, lowerClauses, restLowered]
        exact congrArg (fun fields => Value.document fields :: rest.map .document) hereLowered

/-- Written behind settled entries under a name of its own, a settled entry is read
without remark and comes last as it stands. -/
theorem readEntry_settled {context : Context} {written : Document} {key : String}
    {value : Value} (entry : SettledEntry context (key, value))
    (fresh : key ∉ Keyed.keys written)
    (identity : key = identityAlias → identityField ∈ Keyed.keys written) :
    (readEntry key value).diagnostics = [] ∧
      (lowerEntries context (readEntry key value).value.toList written).value =
        written ++ [(key, value)] := by
  cases entry with
  | logical operator documents settled =>
      obtain ⟨read, lowered⟩ := readElements_settled documents settled
      rw [readEntry, ClauseKey.ofKey_operator]
      constructor
      · simp [readLogical, read]
      · simp only [readLogical, Reported.value_bind, Reported.value_pure, Option.toList_some,
          lowerEntries, lowerEntry, lowered]
        exact Keyed.insert_of_not_mem fresh _
  | field name value isField settled =>
      have output : outputName written key = key := by
        unfold outputName
        refine if_neg fun both => ?_
        have present := (Keyed.contains_iff_mem_keys written identityField).2 (identity both.1)
        exact absurd both.2 (by rw [present]; exact Bool.noConfusion)
      rw [readEntry, isField]
      constructor
      · rfl
      · simp only [Reported.value_bind, Reported.value_pure, Option.toList_some,
          lowerEntries, lowerEntry, output, settled]
        exact Keyed.insert_of_not_mem fresh value

theorem value_lowerEntries_append (context : Context) (first second : Clause)
    (written : Document) :
    (lowerEntries context (first ++ second) written).value =
      (lowerEntries context second (lowerEntries context first written).value).value := by
  induction first generalizing written with
  | nil => rfl
  | cons entry rest ih => exact ih _

theorem read_settled {context : Context} (rest : Document) :
    ∀ written : Document, SettledLevel context (written ++ rest) →
      (read rest).diagnostics = [] ∧
        (lowerEntries context (read rest).value written).value = written ++ rest := by
  induction rest with
  | nil => exact fun _ _ => ⟨rfl, (List.append_nil _).symm⟩
  | cons entry rest ih =>
      obtain ⟨key, value⟩ := entry
      intro written level
      have keys : Keyed.keys (written ++ (key, value) :: rest) =
          Keyed.keys written ++ key :: Keyed.keys rest := Keyed.keys_append _ _
      have fresh : key ∉ Keyed.keys written := by
        have nodup := level.nodup
        rw [keys] at nodup
        intro member
        exact (List.nodup_append.1 nodup).2.2 key member key List.mem_cons_self rfl
      have identity : key = identityAlias → identityField ∈ Keyed.keys written := by
        intro same
        exact level.identityFirst _ (Keyed.keys rest) (same ▸ keys)
      have entry := level.entries (key, value)
        (List.mem_append_right _ List.mem_cons_self)
      obtain ⟨hereRead, hereLowered⟩ := readEntry_settled entry fresh identity
      have levelBehind : SettledLevel context ((written ++ [(key, value)]) ++ rest) := by
        rw [List.append_assoc, List.singleton_append]
        exact level
      obtain ⟨restRead, restLowered⟩ := ih _ levelBehind
      rw [read_cons]
      constructor
      · simp [hereRead, restRead]
      · simp only [Reported.value_bind, Reported.value_pure, value_lowerEntries_append,
          hereLowered, restLowered, List.append_assoc, List.singleton_append]

/-- A settled level is read without remark and written as itself. -/
theorem settled_of_level {context : Context} {written : Document}
    (level : SettledLevel context written) : Settled context written :=
  read_settled written [] level

/-! ## Lowering makes settled levels -/

theorem settledLevel_lowerPatterns {context : Context} {group : Document}
    (plain : plainGroup (.document group) = true) :
    ∀ {written : Document}, SettledLevel context written →
      SettledLevel context (lowerPatterns context (group.map likePattern) written).value := by
  induction group with
  | nil => exact fun level => level
  | cons pattern rest ih =>
      intro written level
      obtain ⟨here, later⟩ := Bool.and_eq_true_iff.1 plain
      obtain ⟨notAlias, free⟩ := of_decide_eq_true here
      rw [List.map_cons, likePattern_eq, lowerPatterns, Reported.value_bind]
      refine ih later (level.insert ?_ fun same => absurd same notAlias)
      exact .field pattern.1 _ (ClauseKey.ofKey_of_not_reserved free)
        (Expression.lower_lower context pattern.1 _)

theorem settledLevel_lowerField {context : Context} {written : Document}
    (level : SettledLevel context written) {key : String}
    (isField : ClauseKey.ofKey key = .field) (value : Value) :
    SettledLevel context
      (lowerEntry context (.field key (Expression.ofValue value)) written).value := by
  have settled := Expression.lower_lower context (outputName written key) value
  rw [lowerEntry, Reported.value_bind, Reported.value_pure]
  by_cases renamed : key = identityAlias ∧ !Keyed.contains written identityField
  · have output : outputName written key = identityField := if_pos renamed
    rw [output] at settled ⊢
    exact level.insert (.field identityField _ (by decide) settled)
      fun same => absurd same (by decide)
  · have output : outputName written key = key := if_neg renamed
    rw [output] at settled ⊢
    refine level.insert (.field key _ isField settled) fun same => ?_
    rw [← Keyed.contains_iff_mem_keys]
    cases present : Keyed.contains written identityField with
    | true => rfl
    | false => exact absurd ⟨same, by rw [present]; rfl⟩ renamed

mutual

/-- A plain clause document is written as a settled level. -/
theorem settledLevel_read {context : Context} : ∀ fields : List (String × Value),
    plainEntries fields = true → ∀ {written : Document}, SettledLevel context written →
      SettledLevel context (lowerEntries context (read fields).value written).value
  | [], _, _, level => level
  | (key, value) :: rest, plain, written, level => by
      obtain ⟨herePlain, restPlain⟩ := Bool.and_eq_true_iff.1 plain
      have here : SettledLevel context
          (lowerEntries context (readEntry key value).value.toList written).value := by
        unfold readEntry
        cases kind : ClauseKey.ofKey key with
        | logical operator =>
            rw [kind] at herePlain
            exact settledLevel_readLogical key operator value herePlain level
        | likeGroup =>
            rw [kind] at herePlain
            cases value with
            | document group => exact settledLevel_lowerPatterns herePlain level
            | _ => exact level
        | field => exact settledLevel_lowerField level kind value
      rw [read_cons]
      simp only [Reported.value_bind, Reported.value_pure, value_lowerEntries_append]
      exact settledLevel_read rest restPlain here

theorem settledLevel_readLogical {context : Context} (key : String)
    (operator : LogicalOperator) : ∀ value : Value,
    plainLogical value = true → ∀ {written : Document}, SettledLevel context written →
      SettledLevel context
        (lowerEntries context (readLogical key operator value).value.toList written).value
  | .array items, plain, written, level => by
      obtain ⟨documents, lowered, settled⟩ :=
        settled_readElements context items plain
      have entry := SettledEntry.logical operator documents settled
      have notAlias : operator.key ≠ identityAlias := by cases operator <;> decide
      simp only [readLogical, Reported.value_bind, Reported.value_pure, Option.toList_some,
        lowerEntries, lowerEntry, lowered]
      exact level.insert entry fun same => absurd same notAlias
  | .string _, _, _, level | .document _, _, _, level | .double _, _, _, level
  | .binary _ _, _, _, level | .undefined, _, _, level | .objectId _, _, _, level
  | .boolean _, _, _, level | .dateTime _, _, _, level | .null, _, _, level
  | .regex _, _, _, level | .dbPointer _ _, _, _, level | .code _, _, _, level
  | .symbol _, _, _, level | .codeWithScope _ _, _, _, level | .int32 _, _, _, level
  | .timestamp _ _, _, _, level | .int64 _, _, _, level | .decimal128 _, _, _, level
  | .maxKey, _, _, level | .minKey, _, _, level => level

theorem settled_readElements (context : Context) : ∀ items : List Value,
    plainElements items = true →
      ∃ documents : List Document,
        (lowerClauses context (readElements items).value).value = documents.map .document ∧
          ∀ document ∈ documents, Settled context document
  | [], _ => ⟨[], rfl, fun _ member => absurd member List.not_mem_nil⟩
  | item :: rest, plain => by
      obtain ⟨herePlain, restPlain⟩ := Bool.and_eq_true_iff.1 plain
      obtain ⟨documents, lowered, settled⟩ :=
        settled_readElements context rest restPlain
      have here := settled_readElement context item herePlain
      refine ⟨(lower context (readElement item).value).value :: documents, ?_, ?_⟩
      · simp only [readElements, Reported.value_bind, Reported.value_pure, lowerClauses, lowered]
        rfl
      · intro document member
        rcases List.mem_cons.1 member with rfl | later
        · exact here
        · exact settled document later

theorem settled_readElement (context : Context) : ∀ item : Value,
    plainElement item = true →
      Settled context (lower context (readElement item).value).value
  | .document fields, plain =>
      settled_of_level (settledLevel_read fields plain (settledLevel_nil context))
  | .string _, _ | .array _, _ | .double _, _ | .binary _ _, _ | .undefined, _
  | .objectId _, _ | .boolean _, _ | .dateTime _, _ | .null, _ | .regex _, _
  | .dbPointer _ _, _ | .code _, _ | .symbol _, _ | .codeWithScope _ _, _ | .int32 _, _
  | .timestamp _ _, _ | .int64 _, _ | .decimal128 _, _ | .maxKey, _ | .minKey, _ =>
      settled_of_level (settledLevel_nil context)

end

end Clause

/-! ## Queries -/

/-- Whether all like groups of the conditions of some criteria are plain. -/
def plainCriteria (criteria : Document) : Bool :=
  criteria.all fun entry => decide (entry.1 ≠ whereKey) || plainElement entry.2

/-- What plain conditions are written as is written as itself, with no remark on its shape.
-/
theorem whereQuery_whereQuery (context : Context) {value : Value}
    (plain : plainElement value = true) :
    (whereQuery context (.document (whereQuery context value).value)).value =
        (whereQuery context value).value ∧
      (whereQuery context (.document (whereQuery context value).value)).Only false := by
  have settled := Clause.settled_readElement context value plain
  rw [← value_whereQuery] at settled
  refine ⟨settled.2, fun diagnostic member => ?_⟩
  rw [whereQuery, Reported.diagnostics_bind, settled.1, List.nil_append] at member
  exact Clause.lowerEntries_only context _ [] diagnostic member

/-- An entry of a query stands for itself. -/
theorem entryQuery_entryQuery (context : Context) {key : String} {value : Value}
    (plain : key = whereKey → plainElement value = true) :
    (entryQuery context key (entryQuery context key value).value).value =
        (entryQuery context key value).value ∧
      (entryQuery context key (entryQuery context key value).value).Only false := by
  unfold entryQuery
  by_cases isWhere : key = whereKey
  · obtain ⟨same, only⟩ := whereQuery_whereQuery context (plain isWhere)
    simp only [if_pos isWhere, Reported.value_map]
    refine ⟨congrArg Value.document same, ?_⟩
    intro diagnostic member
    rw [Reported.diagnostics_map] at member
    exact only diagnostic member
  · by_cases isSort : key = sortKey
    · have normal : Sort.normalize (Sort.ofValue value).value = (Sort.ofValue value).value := by
        cases value with
        | document fields => exact Sort.normalize_normalize fields
        | _ => rfl
      simp only [if_neg isWhere, if_pos isSort, Reported.value_map]
      exact ⟨congrArg Value.document normal, fun _ member => absurd member List.not_mem_nil⟩
    · simp only [if_neg isWhere, if_neg isSort]
      exact ⟨rfl, Reported.only_pure false value⟩

/-- A query is a query of itself, and its second reading remarks on nothing but
texts that no type can read. -/
theorem query_query (context : Context) {criteria : Document}
    (plain : plainCriteria criteria = true) :
    (query context (query context criteria).value).value = (query context criteria).value ∧
      ∀ diagnostic ∈ (query context (query context criteria).value).diagnostics,
        diagnostic.isStructural = false := by
  induction criteria with
  | nil => exact ⟨rfl, fun _ member => absurd member List.not_mem_nil⟩
  | cons entry rest ih =>
      obtain ⟨key, value⟩ := entry
      obtain ⟨herePlain, restPlain⟩ := Bool.and_eq_true_iff.1 plain
      have plainValue : key = whereKey → plainElement value = true := by
        intro isWhere
        rcases Bool.or_eq_true_iff.1 herePlain with other | plainValue
        · exact absurd isWhere (of_decide_eq_true other)
        · exact plainValue
      obtain ⟨here, hereOnly⟩ := entryQuery_entryQuery context plainValue
      obtain ⟨later, laterOnly⟩ := ih restPlain
      simp only [query, Reported.value_bind, Reported.value_pure, Reported.diagnostics_bind,
        Reported.diagnostics_pure, List.append_nil, here, later, true_and]
      intro diagnostic member
      rcases List.mem_append.1 member with first | second
      · exact hereOnly diagnostic first
      · exact laterOnly diagnostic second

/-- An identity read as an identifier, a negated pattern, a like group and a sort,
with a number that the second reading cannot read either. -/
theorem query_query_of_plain :
    let options : Options := { objectIdIdentity := true, numericFallback := .keepText }
    let context : Context := ⟨Schema.ofList [("age", .integer)], options⟩
    let criteria : Document :=
      [("where", .document
        [("id", .string "0123456789abcdef01234567"),
          ("LIKE", .document [("name", .string "a%")]),
          ("OR", .array [.document [("age", .document
            [("!", .document [("contains", .string "b")]), (">", .string "old")])]])]),
        ("sort", .document [("id", .int32 (-1))])]
    plainCriteria criteria = true ∧
      (query context (query context criteria).value).value = (query context criteria).value ∧
      ∀ diagnostic ∈ (query context (query context criteria).value).diagnostics,
        diagnostic.isStructural = false :=
  ⟨by decide, query_query _ (by decide)⟩

end Criteria
