import Criteria.Proofs.Clause.Sources

/-!
# Modifier maps entry by entry

What a modifier map is translated to follows from what its entries are translated to
alone: the operators of each are written one behind the other into one document, where
a key written again keeps its place and takes the new value. Negation wraps the
translation of what it negates.
-/

namespace Criteria

namespace Keyed

variable {α : Type}

/-- Records written over one another in order. -/
def merge (records : List (Keyed α)) : Keyed α :=
  records.foldl insertAll []

theorem foldl_insertAll (records : List (Keyed α)) (written : Keyed α) :
    records.foldl insertAll written = written.insertAll records.flatten := by
  induction records generalizing written with
  | nil => rfl
  | cons first rest ih => rw [List.foldl_cons, ih, List.flatten_cons, insertAll_append]

theorem merge_eq_ofList (records : List (Keyed α)) : merge records = ofList records.flatten :=
  foldl_insertAll records []

/-- The names of merged records stand where they first come up. -/
theorem keys_merge (records : List (Keyed α)) :
    (merge records).keys = (keys records.flatten).eraseDups := by
  rw [merge_eq_ofList, keys_ofList]

/-- Of several entries under one name merged records hold the last. -/
theorem mem_merge_iff (records : List (Keyed α)) (key : String) (value : α) :
    (key, value) ∈ merge records ↔
      ∃ earlier later, records.flatten = earlier ++ (key, value) :: later ∧
        key ∉ keys later := by
  rw [merge_eq_ofList, mem_ofList_iff]

end Keyed

namespace Expression

/-- The operators of a translated modifier map; a pattern that stands bare is one
operator. -/
def operators : Value → Document
  | .regex r => [("$regex", .regex r)]
  | .document fields => fields
  | _ => []

/-- A bare pattern still counts as the operator that it was. -/
theorem operators_unwrapRegex (fields : Document) : operators (unwrapRegex fields) = fields := by
  rcases unwrapRegex_eq_or fields with ⟨r, rfl, bare⟩ | document
  · rw [bare]
    rfl
  · rw [document]
    rfl

theorem unwrapRegex_of_ne {fields : Document}
    (other : ∀ r, fields ≠ [("$regex", .regex r)]) : unwrapRegex fields = .document fields := by
  rcases unwrapRegex_eq_or fields with ⟨r, lone, -⟩ | document
  · exact absurd lone (other r)
  · exact document

theorem unwrapRegex_singleton_of_ne {key : String} (other : key ≠ "$regex") (value : Value) :
    unwrapRegex [(key, value)] = .document [(key, value)] := by
  refine unwrapRegex_of_ne fun r lone => other ?_
  exact congrArg Prod.fst (List.singleton_inj.1 lone)

/-! ## One entry -/

/-- An entry alone is translated to the one operator that it writes. -/
theorem lower_singleton (context : Context) (field : String) (entry : String × Value) :
    lower context field (ofValue (.document [entry])) =
      (fun written => unwrapRegex [written]) <$> lowerField context field entry := by
  obtain ⟨key, value⟩ := entry
  apply Reported.eq_of_parts
  · rw [ofValue, value_lower_modifiers, value_emitted_ofFields]
    rfl
  · rw [ofValue, diagnostics_lower_modifiers, diagnostics_emitted_ofFields,
      Reported.diagnostics_map]
    exact List.append_nil _

theorem operators_singleton (context : Context) (field : String) (entry : String × Value) :
    operators (lower context field (ofValue (.document [entry]))).value =
      [(lowerField context field entry).value] := by
  rw [lower_singleton, Reported.value_map, operators_unwrapRegex]

/-! ## Negation -/

/-- Both spellings of negation negate any operand. -/
theorem resolve_negation {key : String}
    (spelled : Text.lowercase key = "not" ∨ Text.lowercase key = "!") (operand : Value) :
    Modifier.resolve key operand = .not := by
  rcases spelled with word | mark
  · rw [Modifier.resolve, word]
    rfl
  · rw [Modifier.resolve, mark]
    rfl

theorem lower_negated_document (context : Context) (field : String) {key : String}
    {negated : Document} (negation : Modifier.resolve key (.document negated) = .not) :
    lower context field (ofValue (.document [(key, .document negated)])) =
      (fun inner => .document [("$not", inner)]) <$>
        lower context field (ofValue (.document negated)) := by
  have notPattern : Meaning.negationKey ≠ "$regex" := by decide
  rw [lower_singleton, lowerField_negated context field negation]
  apply Reported.eq_of_parts
  · rw [Reported.value_map, Reported.value_map, Reported.value_map,
      unwrapRegex_singleton_of_ne notPattern]
    rfl
  · rw [Reported.diagnostics_map, Reported.diagnostics_map, Reported.diagnostics_map]

/-- A negated value that is no document is excluded under the key for its kind. -/
theorem lowerField_excluded (context : Context) (field : String) {key : String}
    {value : Value} (negation : Modifier.resolve key value = .not)
    (notDocument : ∀ negated, value ≠ .document negated) :
    lowerField context field (key, value) =
      Prod.mk (exclusionKey value) <$> Coercion.coerce context field value := by
  have notVerbatim : Modifier.not ≠ .verbatim "$ne" := by decide
  have kept : Operand.ofValue .not value = .value value := by
    rcases Operand.ofValue_eq_or .not value with ⟨negated, document, -⟩ | kept
    · exact absurd document (notDocument negated)
    · exact kept
  have written : lowerField context field (key, value) =
      lowerValue context field .not value := by
    rw [lowerField, negation, kept, lowerOperand]
  rw [written]
  apply Reported.eq_of_parts
  · rw [value_lowerValue_not, Reported.value_map]
  · rw [Reported.diagnostics_map, lowerValue, Coercion.coerceOperand_of_ne notVerbatim,
      Reported.diagnostics_bind]
    split <;> exact List.append_nil _

theorem lower_excluded (context : Context) (field : String) {key : String} {value : Value}
    (negation : Modifier.resolve key value = .not)
    (notDocument : ∀ negated, value ≠ .document negated) :
    lower context field (ofValue (.document [(key, value)])) =
      (fun excluded => .document [(exclusionKey value, excluded)]) <$>
        Coercion.coerce context field value := by
  have notPattern : exclusionKey value ≠ "$regex" := by
    rcases exclusionKey_eq_or value with array | other
    · rw [array]
      decide
    · rw [other]
      decide
  rw [lower_singleton, lowerField_excluded context field negation notDocument]
  apply Reported.eq_of_parts
  · rw [Reported.value_map, Reported.value_map, Reported.value_map,
      unwrapRegex_singleton_of_ne notPattern]
  · rw [Reported.diagnostics_map, Reported.diagnostics_map, Reported.diagnostics_map]

/-! ## The whole map -/

/-- The operators that the entries of a modifier map write alone, in order. -/
theorem flatten_operators (context : Context) (field : String) (fields : Document) :
    (fields.map fun entry =>
        operators (lower context field (ofValue (.document [entry]))).value).flatten =
      (emitted context field (Operand.ofFields fields)).value := by
  rw [value_emitted_ofFields, ← List.flatMap_def, List.map_eq_flatMap]
  simp only [operators_singleton]

theorem value_lower_document (context : Context) (field : String) (fields : Document) :
    (lower context field (ofValue (.document fields))).value =
      unwrapRegex (Keyed.merge (fields.map fun entry =>
        operators (lower context field (ofValue (.document [entry]))).value)) := by
  rw [Keyed.merge_eq_ofList, flatten_operators]
  exact value_lower_modifiers context field (Operand.ofFields fields)

theorem diagnostics_lower_document (context : Context) (field : String) (fields : Document) :
    (lower context field (ofValue (.document fields))).diagnostics =
      fields.flatMap fun entry =>
        (lower context field (ofValue (.document [entry]))).diagnostics := by
  simp only [lower_singleton, Reported.diagnostics_map]
  rw [← diagnostics_emitted_ofFields]
  exact diagnostics_lower_modifiers context field (Operand.ofFields fields)

/-- A modifier map is translated to the operators of its entries, each translated
alone, written over one another in order: a key stands where it first comes up and has
the value that comes last. Where that is one regular expression under `$regex`, it
stands bare. The diagnostics are those of the entries in order. A negated document is
its own translation under `$not`, at any depth, a negated array is excluded member by
member, and any other negated value is excluded itself. -/
theorem lower_modifiers_merge (context : Context) (field : String) :
    let translate := fun value : Value => lower context field (ofValue value)
    let alone := fun entry : String × Value => translate (.document [entry])
    (∀ fields : Document, ∃ (parts : List Document) (merged : Document),
        parts = fields.map (fun entry => operators (alone entry).value) ∧
        (∀ part ∈ parts, ∃ key value, part = [(key, value)]) ∧
        merged = Keyed.merge parts ∧
        Keyed.keys merged = (Keyed.keys parts.flatten).eraseDups ∧
        (∀ key value, (key, value) ∈ merged ↔
          ∃ earlier later, parts.flatten = earlier ++ (key, value) :: later ∧
            key ∉ Keyed.keys later) ∧
        (∀ r, merged = [("$regex", .regex r)] →
          (translate (.document fields)).value = .regex r) ∧
        ((∀ r, merged ≠ [("$regex", .regex r)]) →
          (translate (.document fields)).value = .document merged) ∧
        (translate (.document fields)).diagnostics =
          fields.flatMap fun entry => (alone entry).diagnostics) ∧
      ∀ key : String, Text.lowercase key = "not" ∨ Text.lowercase key = "!" →
        (∀ negated : Document, alone (key, .document negated) =
          (fun inner => .document [("$not", inner)]) <$> translate (.document negated)) ∧
        (∀ items : List Value, alone (key, .array items) =
          (fun coerced => .document [("$nin", coerced)]) <$>
            Coercion.coerce context field (.array items)) ∧
        ∀ value : Value, (∀ negated, value ≠ .document negated) →
          (∀ items, value ≠ .array items) →
            alone (key, value) =
              (fun coerced => .document [("$ne", coerced)]) <$>
                Coercion.coerce context field value := by
  intro translate alone
  constructor
  · intro fields
    have whole := value_lower_document context field fields
    refine ⟨_, _, rfl, ?_, rfl, Keyed.keys_merge _, Keyed.mem_merge_iff _, ?_, ?_, ?_⟩
    · intro part member
      obtain ⟨entry, -, rfl⟩ := List.mem_map.1 member
      exact ⟨_, _, operators_singleton context field entry⟩
    · intro r lone
      rw [whole, lone]
      rfl
    · intro other
      rw [whole, unwrapRegex_of_ne other]
    · exact diagnostics_lower_document context field fields
  · intro key spelled
    refine ⟨fun negated => ?_, fun items => ?_, fun value notDocument notArray => ?_⟩
    · exact lower_negated_document context field (resolve_negation spelled _)
    · exact lower_excluded context field (resolve_negation spelled _)
        fun _ => Value.noConfusion
    · have itself : exclusionKey value = "$ne" := by
        cases value with
        | array items => exact absurd rfl (notArray items)
        | _ => rfl
      have excluded := lower_excluded context field (resolve_negation spelled _) notDocument
      rw [itself] at excluded
      exact excluded

/-- Two patterns under one key, a negation of them, and a lone pattern that is written
twice. -/
theorem lower_modifiers_merge_of_repeated_patterns :
    let context : Context := ⟨Schema.ofList [("name", .integer)], {}⟩
    let first : String × Value := ("like", .string "a%")
    let second : String × Value := ("$regex", .string "b")
    let last : String × Value := ("endsWith", .string "c")
    let regex : Value := .regex ⟨"^.*c$", "i"⟩
    (Text.lowercase "NOT" = "not" ∧
        lower context "name" (ofValue (.document
          [("NOT", .document [first, (">", .string "x"), second, last])])) =
          ⟨.document [("$not", .document [("$regex", regex), ("$gt", .double .nan)])],
            [.unparsableNumber "name" .integer "x", .unparsableNumber "name" .integer "b"]⟩) ∧
      lower context "name" (ofValue (.document [first, last])) = ⟨regex, []⟩ := by
  intro context first second last regex
  have spelled : Text.lowercase "NOT" = "not" := by decide
  obtain ⟨merges, negates⟩ := lower_modifiers_merge context "name"
  obtain ⟨document, -, -⟩ := negates "NOT" (Or.inl spelled)
  obtain ⟨parts, merged, rfl, -, rfl, -, -, -, whole, reported⟩ :=
    merges [first, (">", .string "x"), second, last]
  obtain ⟨lone, pattern, rfl, -, rfl, -, -, bare, -, unreported⟩ := merges [first, last]
  refine ⟨⟨spelled, ?_⟩, ?_⟩
  · refine (document _).trans (Reported.eq_of_parts ?_ ?_)
    · refine congrArg (fun inner => Value.document [("$not", inner)]) (whole ?_)
      intro r same
      cases same
    · exact (Reported.diagnostics_map _ _).trans reported
  · apply Reported.eq_of_parts
    · exact bare _ rfl
    · exact unreported

end Expression

end Criteria
