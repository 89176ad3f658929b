import Criteria.Proofs.Clause.Diagnostics
import Criteria.Proofs.Clause.Emission
import Criteria.Proofs.Clause.Spelling
import Criteria.Proofs.Meaning.Reading

/-!
# What a level is written from

Every name of a level is written from the array of a logical operator, from a field
of a like group or from a field. `Clause.sources` lists the names with what they are
written from, in order and before any of it is translated. A level is the
translation of these sources, of several under one name the last, and it records
what the translation of each of them records.
-/

namespace Criteria

/-- The clause document that a value stands for; whatever is no document stands for
an empty one. -/
def Value.fields : Value → Document
  | .document fields => fields
  | _ => []

namespace Clause

/-- What a name of a level is written from: the elements of a logical operator, a
field of a like group, or a field. -/
inductive Source
  | elements (items : List Value)
  | pattern (value : Value)
  | field (value : Value)

/-- A source in the store's operators, under the name that it is written under. -/
def Source.lower (context : Context) (name : String) : Source → Reported Value
  | .elements items => .array <$> lowerClauses context (readElements items).value
  | .pattern value =>
    Expression.lower context name (Expression.ofValue (.document [("like", value)]))
  | .field value => Expression.lower context name (Expression.ofValue value)

/-- The names that one entry writes behind some other names, with their
sources. -/
def entrySources (before : List String) (key : String) (value : Value) : Keyed Source :=
  match ClauseKey.ofKey key, value with
  | .logical operator, .array items => [(operator.key, .elements items)]
  | .likeGroup, .document group => group.map fun entry => (entry.1, .pattern entry.2)
  | .field, value => [(nameAfter before key, .field value)]
  | _, _ => []

/-- The names that a clause document writes behind some other names, with their
sources, in order. -/
def sources (before : List String) : Document → Keyed Source
  | [] => []
  | (key, value) :: rest =>
    let here := entrySources before key value
    here ++ sources (before ++ Keyed.keys here) rest

theorem entrySources_of_field {key : String} (isField : ClauseKey.ofKey key = .field)
    (before : List String) (value : Value) :
    entrySources before key value = [(nameAfter before key, .field value)] := by
  unfold entrySources
  rw [isField]

theorem entrySources_of_logical {key : String} {operator : LogicalOperator}
    (isLogical : ClauseKey.ofKey key = .logical operator) (before : List String)
    (items : List Value) :
    entrySources before key (.array items) = [(operator.key, .elements items)] := by
  unfold entrySources
  rw [isLogical]

theorem entrySources_of_likeGroup {key : String} (isGroup : ClauseKey.ofKey key = .likeGroup)
    (before : List String) (group : Document) :
    entrySources before key (.document group) =
      group.map fun entry => (entry.1, .pattern entry.2) := by
  unfold entrySources
  rw [isGroup]

/-- A field is written under a name that is read as a field again. -/
theorem ofKey_nameAfter {key : String} (isField : ClauseKey.ofKey key = .field)
    (before : List String) : ClauseKey.ofKey (nameAfter before key) = .field := by
  unfold nameAfter
  split
  · decide
  · exact isField

/-- What one entry writes: the elements of a logical operator, the fields of a like
group, or its own field. -/
theorem mem_entrySources {before : List String} {key name : String} {value : Value}
    {source : Source} (member : (name, source) ∈ entrySources before key value) :
    (∃ operator items, ClauseKey.ofKey key = .logical operator ∧ value = .array items ∧
        name = operator.key ∧ source = .elements items) ∨
      (∃ pattern, ClauseKey.ofKey key = .likeGroup ∧ (name, pattern) ∈ value.fields ∧
        source = .pattern pattern) ∨
      ClauseKey.ofKey key = .field ∧ name = nameAfter before key ∧ source = .field value := by
  cases kind : ClauseKey.ofKey key with
  | logical operator =>
      unfold entrySources at member
      rw [kind] at member
      cases value with
      | array items =>
          obtain ⟨named, written⟩ := Prod.mk.inj (List.mem_singleton.1 member)
          exact Or.inl ⟨operator, items, rfl, rfl, named, written⟩
      | _ => exact absurd member List.not_mem_nil
  | likeGroup =>
      unfold entrySources at member
      rw [kind] at member
      cases value with
      | document group =>
          obtain ⟨pattern, original, same⟩ := List.mem_map.1 member
          obtain ⟨rfl, rfl⟩ := Prod.mk.inj same
          exact Or.inr (Or.inl ⟨pattern.2, rfl, original, rfl⟩)
      | _ => exact absurd member List.not_mem_nil
  | field =>
      rw [entrySources_of_field kind] at member
      obtain ⟨named, written⟩ := Prod.mk.inj (List.mem_singleton.1 member)
      exact Or.inr (Or.inr ⟨rfl, named, written⟩)

/-- The entries behind others see the names that these write. -/
theorem sources_append (before : List String) (first second : Document) :
    sources before (first ++ second) =
      sources before first ++
        sources (before ++ Keyed.keys (sources before first)) second := by
  induction first generalizing before with
  | nil => simp [sources, Keyed.keys]
  | cons entry rest ih =>
      obtain ⟨key, value⟩ := entry
      rw [List.cons_append, sources, sources, ih, Keyed.keys_append, List.append_assoc,
        List.append_assoc]

/-- A level is written by its entries, each behind the names of those before it. -/
theorem mem_sources_iff {before : List String} {fields : Document} {name : String}
    {source : Source} :
    (name, source) ∈ sources before fields ↔
      ∃ earlier key value later, fields = earlier ++ (key, value) :: later ∧
        (name, source) ∈
          entrySources (before ++ Keyed.keys (sources before earlier)) key value := by
  constructor
  · intro member
    induction fields generalizing before with
    | nil => cases member
    | cons entry rest ih =>
        obtain ⟨key, value⟩ := entry
        rcases List.mem_append.1 member with here | behind
        · refine ⟨[], key, value, rest, rfl, ?_⟩
          simpa [sources, Keyed.keys] using here
        · obtain ⟨earlier, other, found, later, rfl, written⟩ := ih behind
          refine ⟨(key, value) :: earlier, other, found, later, rfl, ?_⟩
          rw [List.append_assoc, ← Keyed.keys_append] at written
          exact written
  · rintro ⟨earlier, key, value, later, rfl, written⟩
    rw [sources_append]
    exact List.mem_append_right _ (List.mem_append_left _ written)

theorem mem_keys_sources_iff {before : List String} {fields : Document} {name : String} :
    name ∈ Keyed.keys (sources before fields) ↔
      ∃ earlier key value later, fields = earlier ++ (key, value) :: later ∧
        name ∈ Keyed.keys
          (entrySources (before ++ Keyed.keys (sources before earlier)) key value) := by
  constructor
  · intro member
    obtain ⟨⟨found, source⟩, written, rfl⟩ := List.mem_map.1 member
    obtain ⟨earlier, key, value, later, split, here⟩ := mem_sources_iff.1 written
    exact ⟨earlier, key, value, later, split, Keyed.mem_keys_of_mem here⟩
  · rintro ⟨earlier, key, value, later, split, member⟩
    obtain ⟨⟨found, source⟩, here, rfl⟩ := List.mem_map.1 member
    have written := mem_sources_iff.2 ⟨earlier, key, value, later, split, here⟩
    exact Keyed.mem_keys_of_mem written

def lowerSources (context : Context) : Keyed Source → Reported (Keyed Value)
  | [] => pure []
  | (name, source) :: rest => do
    let value ← source.lower context name
    let more ← lowerSources context rest
    pure ((name, value) :: more)

theorem value_lowerSources (context : Context) (sources : Keyed Source) :
    (lowerSources context sources).value =
      Keyed.mapEntries (fun name source => (source.lower context name).value) sources := by
  induction sources with
  | nil => rfl
  | cons entry rest ih =>
      simp only [lowerSources, Reported.value_bind, Reported.value_pure, ih]
      rfl

theorem diagnostics_lowerSources (context : Context) (sources : Keyed Source) :
    (lowerSources context sources).diagnostics =
      sources.flatMap fun entry => (entry.2.lower context entry.1).diagnostics := by
  induction sources with
  | nil => rfl
  | cons entry rest ih => simp [lowerSources, ih]

theorem lowerSources_append (context : Context) (first second : Keyed Source) :
    lowerSources context (first ++ second) =
      (do
        let here ← lowerSources context first
        let more ← lowerSources context second
        pure (here ++ more)) := by
  apply Reported.eq_of_parts
  · simp [value_lowerSources, Keyed.mapEntries_append]
  · simp [diagnostics_lowerSources]

/-! ## A clause document writes its sources -/

theorem emittedPatterns_eq_lowerSources (context : Context) (group : Document) :
    emittedPatterns context (group.map likePattern) =
      lowerSources context (group.map fun entry => (entry.1, Source.pattern entry.2)) := by
  induction group with
  | nil => rfl
  | cons entry rest ih =>
      simp only [List.map_cons, likePattern_eq, emittedPatterns, lowerSources, ih]
      rfl

/-- Reading an entry and writing it is writing its sources. -/
theorem emittedOption_readEntry (context : Context) (before : List String) (key : String)
    (value : Value) :
    emittedOption context before (readEntry key value).value =
      lowerSources context (entrySources before key value) := by
  unfold readEntry entrySources
  cases ClauseKey.ofKey key with
  | logical operator =>
      cases value with
      | array items =>
          apply Reported.eq_of_parts
          · rfl
          · simp [readLogical, emittedOption, emittedEntry, lowerSources, Source.lower]
      | _ => rfl
  | likeGroup =>
      cases value with
      | document group => exact emittedPatterns_eq_lowerSources context group
      | _ => rfl
  | field => cases value <;> rfl

theorem emitted_toList_append (context : Context) (before : List String)
    (entry : Option Entry) (rest : Clause) :
    emitted context before (entry.toList ++ rest) =
      (do
        let here ← emittedOption context before entry
        let more ← emitted context (before ++ Keyed.keys here) rest
        pure (here ++ more)) := by
  cases entry with
  | none =>
      apply Reported.eq_of_parts
      · simp [emittedOption, Keyed.keys]
      · simp [emittedOption, Keyed.keys]
  | some entry => rfl

/-- Reading a clause document and writing it is writing its sources. -/
theorem emitted_read (context : Context) (before : List String) (fields : Document) :
    emitted context before (read fields).value =
      lowerSources context (sources before fields) := by
  induction fields generalizing before with
  | nil => rfl
  | cons entry rest ih =>
      obtain ⟨key, value⟩ := entry
      have names : Keyed.keys (lowerSources context (entrySources before key value)).value =
          Keyed.keys (entrySources before key value) := by
        rw [value_lowerSources, Keyed.keys_mapEntries]
      rw [read_cons, Reported.value_bind, Reported.value_bind, Reported.value_pure,
        emitted_toList_append, emittedOption_readEntry, sources, lowerSources_append]
      apply Reported.eq_of_parts
      · simp only [Reported.value_bind, Reported.value_pure, names, ih]
      · simp only [Reported.diagnostics_bind, Reported.diagnostics_pure, names, ih]

/-- A level is made of its sources in order, each name with its last value. -/
theorem lower_read (context : Context) (fields : Document) :
    lower context (read fields).value =
      Keyed.ofList <$> lowerSources context (sources [] fields) := by
  rw [lower_eq_ofList, emitted_read]

/-! ## The level of a clause document -/

/-- The source that each name of a level is written from last. -/
def lastSources (fields : Document) : Keyed Source :=
  Keyed.ofList (sources [] fields)

theorem nodup_keys_lastSources (fields : Document) : (Keyed.keys (lastSources fields)).Nodup :=
  Keyed.nodup_keys_ofList _

theorem value_readElement (value : Value) :
    (readElement value).value = (read value.fields).value := by
  cases value <;> rfl

/-- A level is the translation of what each of its names is written from last. -/
theorem value_whereQuery_eq (context : Context) (value : Value) :
    (whereQuery context value).value =
      Keyed.mapEntries (fun name source => (source.lower context name).value)
        (lastSources value.fields) := by
  rw [value_whereQuery, value_readElement, lower_read, Reported.value_map, value_lowerSources,
    lastSources, Keyed.mapEntries_ofList]

/-- The elements of a logical operator are translated one by one, each as conditions
of its own. -/
theorem value_lowerClauses_readElements (context : Context) (items : List Value) :
    (lowerClauses context (readElements items).value).value =
      items.map fun item => .document (whereQuery context item).value := by
  induction items with
  | nil => rfl
  | cons item rest ih =>
      rw [readElements, List.map_cons, ← ih, value_whereQuery]
      rfl

/-- A logical operator holds one query for each element. -/
theorem value_lower_elements (context : Context) (name : String) (items : List Value) :
    (Source.lower context name (.elements items)).value =
      .array (items.map fun item => .document (whereQuery context item).value) := by
  rw [← value_lowerClauses_readElements]
  rfl

/-! ## The levels of a query -/

/-- The levels of the query for some criteria, each with the clause document that it
is written for: the whole query, and every document of an array that a logical
operator wrote last. -/
inductive Level (context : Context) (criteria : Value) : Document → Document → Prop
  | whole : Level context criteria criteria.fields (whereQuery context criteria).value
  | element {fields written : Document} {name : String} {items documents : List Value}
      {item : Value} {inner : Document} (outer : Level context criteria fields written)
      (source : (name, .elements items) ∈ lastSources fields)
      (array : (name, .array documents) ∈ written)
      (element : (item, .document inner) ∈ items.zip documents) :
      Level context criteria item.fields inner

theorem value_whereQuery_fields (context : Context) (value : Value) :
    (whereQuery context (.document value.fields)).value = (whereQuery context value).value := by
  rw [value_whereQuery_eq, value_whereQuery_eq]
  rfl

theorem eq_of_mem_zip_map {α β : Type} {change : α → β} {items : List α} {item : α}
    {changed : β} (member : (item, changed) ∈ items.zip (items.map change)) :
    changed = change item := by
  rw [← List.map_prod_left_eq_zip] at member
  obtain ⟨original, -, same⟩ := List.mem_map.1 member
  obtain ⟨rfl, rfl⟩ := Prod.mk.inj same
  rfl

/-- Every level is the query of its own clause document. -/
theorem Level.eq {context : Context} {criteria : Value} {fields written : Document}
    (level : Level context criteria fields written) :
    written = (whereQuery context (.document fields)).value := by
  induction level with
  | whole => exact (value_whereQuery_fields context criteria).symm
  | @element fields written name items documents item inner _ source array element outerEq =>
      rw [outerEq, value_whereQuery_eq] at array
      obtain ⟨last, lastMember, lowered⟩ := Keyed.mem_mapEntries.1 array
      rw [Keyed.eq_of_mem_of_mem (nodup_keys_lastSources fields) lastMember source,
        value_lower_elements] at lowered
      have arrays : items.map (fun item => .document (whereQuery context item).value) =
        documents := Value.array.inj lowered
      rw [← arrays] at element
      have documents := eq_of_mem_zip_map element
      rw [value_whereQuery_fields]
      exact Value.document.inj documents

/-- Every entry of a level is the translation of the last source of its name. -/
theorem Level.mem_iff {context : Context} {criteria : Value} {fields written : Document}
    (level : Level context criteria fields written) (name : String) (value : Value) :
    (name, value) ∈ written ↔
      ∃ source, (name, source) ∈ lastSources fields ∧
        (source.lower context name).value = value := by
  rw [level.eq, value_whereQuery_eq]
  exact Keyed.mem_mapEntries

/-- Under each name of a level stands what its last source is written as. -/
theorem Level.get?_eq {context : Context} {criteria : Value} {fields written : Document}
    (level : Level context criteria fields written) (name : String) :
    Keyed.get? name written =
      (Keyed.get? name (lastSources fields)).map fun source =>
        (source.lower context name).value := by
  rw [level.eq, value_whereQuery_eq]
  exact Keyed.get?_mapEntries _ _ name

end Clause

/-! ## What a modifier map is written from -/

namespace Expression

def lowerField (context : Context) (field : String) (entry : String × Value) :
    Reported (String × Value) :=
  lowerOperand context field (Modifier.resolve entry.1 entry.2)
    (Operand.ofValue (Modifier.resolve entry.1 entry.2) entry.2)

/-- A modifier map writes one operator for each of its entries. -/
theorem value_emitted_ofFields (context : Context) (field : String) (fields : Document) :
    (emitted context field (Operand.ofFields fields)).value =
      fields.map fun entry => (lowerField context field entry).value := by
  induction fields with
  | nil => rfl
  | cons entry rest ih =>
      simp only [Operand.ofFields, emitted, Reported.value_bind, Reported.value_pure, ih]
      rfl

theorem diagnostics_emitted_ofFields (context : Context) (field : String) (fields : Document) :
    (emitted context field (Operand.ofFields fields)).diagnostics =
      fields.flatMap fun entry => (lowerField context field entry).diagnostics := by
  induction fields with
  | nil => rfl
  | cons entry rest ih =>
      simp only [Operand.ofFields, emitted, Reported.diagnostics_bind, Reported.diagnostics_pure,
        List.append_nil, ih]
      rfl

theorem diagnostics_lower_modifiers (context : Context) (field : String)
    (entries : List (Modifier × Operand)) :
    (lower context field (.modifiers entries)).diagnostics =
      (emitted context field entries).diagnostics := by
  rw [lower, lowerModifiers_eq_insertAll]
  simp

theorem lowerField_negated (context : Context) (field : String) {key : String}
    {fields : Document} (negation : Modifier.resolve key (.document fields) = .not) :
    lowerField context field (key, .document fields) =
      Prod.mk Meaning.negationKey <$> lower context field (ofValue (.document fields)) := by
  rw [lowerField, negation, Operand.ofValue, if_pos rfl, lowerOperand, ofValue]
  rfl

/-- The key that an entry writes does not depend on what its operand becomes. -/
theorem key_lowerField (context : Context) (field : String) (entry : String × Value) :
    (lowerField context field entry).value.1 =
      Meaning.modifierKey (Modifier.resolve entry.1 entry.2) entry.2 := by
  obtain ⟨key, value⟩ := entry
  unfold lowerField
  generalize Modifier.resolve key value = modifier
  cases modifier with
  | not =>
      cases value with
      | document fields => rfl
      | _ => exact congrArg Prod.fst (value_lowerValue_not context field _)
  | text kind =>
      rw [Operand.ofValue_of_ne Modifier.noConfusion, lowerOperand]
      cases text : Pattern.operandText? value <;>
        simp [lowerValue, Meaning.modifierKey, text, Modifier.key]
  | comparison comparison =>
      rw [Operand.ofValue_of_ne Modifier.noConfusion]
      rfl
  | verbatim other =>
      rw [Operand.ofValue_of_ne Modifier.noConfusion]
      rfl

end Expression

end Criteria
