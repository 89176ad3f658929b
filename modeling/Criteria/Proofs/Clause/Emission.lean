import Criteria.Clause.Lowering
import Criteria.Clause.Reading
import Criteria.Proofs.Coercion
import Criteria.Proofs.Keyed

/-!
# The entries that a level writes

Lowering builds a document by one insertion after the other, and what an entry
writes depends on the document so far only through the name of the identity.
Here the two are taken apart: `emitted` lists the names and values that a level
writes in order, and lowering is the insertion of that list.
-/

namespace Criteria

namespace Reported

variable {α β : Type}

theorem eq_of_parts {first second : Reported α} (value : first.value = second.value)
    (diagnostics : first.diagnostics = second.diagnostics) : first = second := by
  cases first
  cases second
  simp_all

@[simp]
theorem value_map (change : α → β) (reported : Reported α) :
    (change <$> reported).value = change reported.value := rfl

@[simp]
theorem diagnostics_map (change : α → β) (reported : Reported α) :
    (change <$> reported).diagnostics = reported.diagnostics :=
  List.append_nil reported.diagnostics

end Reported

namespace Expression

/-- The keys and values that modifiers write, in order. -/
def emitted (context : Context) (field : String) :
    List (Modifier × Operand) → Reported (Keyed Value)
  | [] => pure []
  | (modifier, operand) :: rest => do
    let entry ← lowerOperand context field modifier operand
    let more ← emitted context field rest
    pure (entry :: more)

/-- Writing modifiers one by one is inserting at once what all of them write. -/
theorem lowerModifiers_eq_insertAll (context : Context) (field : String)
    (entries : List (Modifier × Operand)) (written : Document) :
    lowerModifiers context field entries written =
      Keyed.insertAll written <$> emitted context field entries := by
  induction entries generalizing written with
  | nil => rfl
  | cons entry rest ih =>
      obtain ⟨modifier, operand⟩ := entry
      apply Reported.eq_of_parts
      · simp only [lowerModifiers, emitted, Reported.value_bind, Reported.value_map,
          Reported.value_pure, ih]
        rfl
      · simp [lowerModifiers, emitted, ih]

/-- Only a document of one regular expression is written as anything but
itself. -/
theorem unwrapRegex_eq_or (fields : Document) :
    (∃ r, fields = [(regexKey, .regex r)] ∧ unwrapRegex fields = .regex r) ∨
      unwrapRegex fields = .document fields := by
  unfold unwrapRegex
  split
  · rename_i key r
    by_cases lone : key = regexKey
    · exact Or.inl ⟨r, by rw [lone], if_pos lone⟩
    · exact Or.inr (if_neg lone)
  · exact Or.inr rfl

/-- A modifier map is lowered to the document of all that it writes. -/
theorem value_lower_modifiers (context : Context) (field : String)
    (entries : List (Modifier × Operand)) :
    (lower context field (.modifiers entries)).value =
      unwrapRegex (Keyed.ofList (emitted context field entries).value) := by
  rw [lower, lowerModifiers_eq_insertAll]
  rfl

/-! ### What single operands write -/

/-- The store's operator that excludes a value, or the members of an array. -/
def exclusionKey : Value → String
  | .array _ => "$nin"
  | _ => "$ne"

theorem exclusionKey_eq_or (value : Value) :
    exclusionKey value = "$nin" ∨ exclusionKey value = "$ne" := by
  cases value with
  | array items => exact Or.inl rfl
  | _ => exact Or.inr rfl

/-- Negation excludes its operand, an array member by member. -/
theorem value_lowerValue_not (context : Context) (field : String) (value : Value) :
    (lowerValue context field .not value).value =
      (exclusionKey value, (Coercion.coerce context field value).value) := by
  have notVerbatim : Modifier.not ≠ .verbatim "$ne" := by decide
  simp only [lowerValue, Reported.value_bind, Coercion.coerceOperand_of_ne notVerbatim]
  by_cases array : ∃ items, value = .array items
  · obtain ⟨items, rfl⟩ := array
    rw [Coercion.coerce_array]
    rfl
  · have notArray : ∀ items, value ≠ .array items := fun items equal => array ⟨items, equal⟩
    have key : exclusionKey value = "$ne" := by
      cases value with
      | array items => exact absurd rfl (notArray items)
      | _ => rfl
    -- no array comes out of the coercion, which leaves the second branch
    have coerced := Coercion.coerce_ne_array notArray context field
    rw [key]
    split
    · rename_i items array
      exact absurd array (coerced items)
    · rfl

/-- No field is asked for an array as it stands. -/
theorem lower_ofValue_ne_array (context : Context) (field : String) (value : Value)
    (items : List Value) : (lower context field (ofValue value)).value ≠ .array items := by
  rcases Coercion.string_or_array_or_fixed value with ⟨text, rfl⟩ | ⟨members, rfl⟩ | fixed
  · exact Coercion.coerce_ne_array (fun _ => Value.noConfusion) context field items
  · exact Value.noConfusion
  · cases value with
    | document fields =>
        rw [ofValue, value_lower_modifiers]
        rcases unwrapRegex_eq_or
            (Keyed.ofList (emitted context field (Operand.ofFields fields)).value) with
          ⟨r, -, regex⟩ | document
        · rw [regex]
          exact Value.noConfusion
        · rw [document]
          exact Value.noConfusion
    | string text => exact fixed.elim
    | array members => exact fixed.elim
    | _ => exact Coercion.coerce_ne_array (fun _ => Value.noConfusion) context field items

end Expression

namespace Clause

/-- The name under which a field is written behind some other names of its
level. -/
def nameAfter (before : List String) (name : String) : String :=
  if name = identityAlias ∧ identityField ∉ before then identityField else name

/-- The name of a field depends on what is written only by whether the identity is. -/
theorem outputName_eq_nameAfter {written : Document} {before : List String}
    (same : identityField ∈ before ↔ identityField ∈ Keyed.keys written) (name : String) :
    outputName written name = nameAfter before name := by
  have absent : (!Keyed.contains written identityField) = true ↔ identityField ∉ before := by
    rw [Bool.not_eq_true', ← Bool.not_eq_true, Keyed.contains_iff_mem_keys, same]
  simp only [outputName, nameAfter, absent]

def emittedPatterns (context : Context) :
    List (String × Expression) → Reported (Keyed Value)
  | [] => pure []
  | (name, expression) :: rest => do
    let value ← expression.lower context name
    let more ← emittedPatterns context rest
    pure ((name, value) :: more)

def emittedEntry (context : Context) (before : List String) :
    Entry → Reported (Keyed Value)
  | .field name expression => do
    let value ← expression.lower context (nameAfter before name)
    pure [(nameAfter before name, value)]
  | .logical operator clauses => do
    let documents ← lowerClauses context clauses
    pure [(operator.key, .array documents)]
  | .likeGroup patterns => emittedPatterns context patterns

/-- The names and values that a level writes behind some other names, in
order. -/
def emitted (context : Context) (before : List String) : Clause → Reported (Keyed Value)
  | [] => pure []
  | entry :: rest => do
    let here ← emittedEntry context before entry
    let more ← emitted context (before ++ Keyed.keys here) rest
    pure (here ++ more)

theorem lowerPatterns_eq_insertAll (context : Context)
    (patterns : List (String × Expression)) (written : Document) :
    lowerPatterns context patterns written =
      Keyed.insertAll written <$> emittedPatterns context patterns := by
  induction patterns generalizing written with
  | nil => rfl
  | cons pattern rest ih =>
      obtain ⟨name, expression⟩ := pattern
      apply Reported.eq_of_parts
      · simp only [lowerPatterns, emittedPatterns, Reported.value_bind, Reported.value_map,
          Reported.value_pure, ih]
        rfl
      · simp [lowerPatterns, emittedPatterns, ih]

theorem lowerEntry_eq_insertAll (context : Context) (entry : Entry) {written : Document}
    {before : List String}
    (same : identityField ∈ before ↔ identityField ∈ Keyed.keys written) :
    lowerEntry context entry written =
      Keyed.insertAll written <$> emittedEntry context before entry := by
  cases entry with
  | field name expression =>
      rw [lowerEntry, outputName_eq_nameAfter same]
      apply Reported.eq_of_parts
      · rfl
      · simp [emittedEntry]
  | logical operator clauses =>
      rw [lowerEntry]
      apply Reported.eq_of_parts
      · rfl
      · simp [emittedEntry]
  | likeGroup patterns =>
      rw [lowerEntry, lowerPatterns_eq_insertAll]
      rfl

/-- A level is the insertion of all that it writes; of the document that it
starts from it sees only whether the identity is there. -/
theorem lowerEntries_eq_insertAll (context : Context) (clause : Clause)
    {written : Document} {before : List String}
    (same : identityField ∈ before ↔ identityField ∈ Keyed.keys written) :
    lowerEntries context clause written =
      Keyed.insertAll written <$> emitted context before clause := by
  induction clause generalizing written before with
  | nil => rfl
  | cons entry rest ih =>
      have sameAfter : identityField ∈
            before ++ Keyed.keys (emittedEntry context before entry).value ↔
          identityField ∈
            Keyed.keys (Keyed.insertAll written (emittedEntry context before entry).value) := by
        rw [List.mem_append, Keyed.mem_keys_insertAll, same]
      have restEq := ih sameAfter
      apply Reported.eq_of_parts
      · simp only [lowerEntries, emitted, Reported.value_bind, Reported.value_map,
          Reported.value_pure, lowerEntry_eq_insertAll context entry same, restEq,
          Keyed.insertAll_append]
      · simp [lowerEntries, emitted, lowerEntry_eq_insertAll context entry same, restEq]

/-- A level holds what its entries write, the last value of each name in the place of its
first. -/
theorem lower_eq_ofList (context : Context) (clause : Clause) :
    lower context clause = Keyed.ofList <$> emitted context [] clause :=
  lowerEntries_eq_insertAll context clause Iff.rfl

/-- A field of a like group asks for what the modifier map of its pattern asks. -/
theorem likePattern_eq (field : String × Value) :
    likePattern field = (field.1, Expression.ofValue (.document [("like", field.2)])) := by
  have spelled : Modifier.resolve "like" field.2 = .text .like := rfl
  have kept : Operand.ofValue (.text .like) field.2 = .value field.2 := by
    cases field.2 <;> rfl
  rw [likePattern, Expression.ofValue, Operand.ofFields, Operand.ofFields, spelled, kept]

/-! ## Reading entry by entry -/

/-- The condition that one entry of a clause document states, if it states
one. -/
def readEntry (key : String) (value : Value) : Reported (Option Entry) :=
  match ClauseKey.ofKey key with
  | .logical operator => readLogical key operator value
  | .likeGroup => readLikeGroup value
  | .field => pure (some (.field key (Expression.ofValue value)))

theorem read_cons (key : String) (value : Value) (rest : List (String × Value)) :
    read ((key, value) :: rest) =
      (do
        let entry ← readEntry key value
        let more ← read rest
        pure (entry.toList ++ more)) := by
  rw [read, readEntry]
  cases ClauseKey.ofKey key <;> rfl

def emittedOption (context : Context) (before : List String) :
    Option Entry → Reported (Keyed Value)
  | none => pure []
  | some entry => emittedEntry context before entry

/-- The entries behind one that may be missing see the names that it writes. -/
theorem value_emitted_toList_append (context : Context) (before : List String)
    (entry : Option Entry) (rest : Clause) :
    (emitted context before (entry.toList ++ rest)).value =
      (emittedOption context before entry).value ++
        (emitted context
          (before ++ Keyed.keys (emittedOption context before entry).value) rest).value := by
  cases entry with
  | none => simp [emittedOption, Keyed.keys]
  | some entry => rfl

end Clause

end Criteria
