import Criteria.Proofs.Grammar

/-!
# What clauses are read as

Clauses could be built in more ways than reading builds them. What is read from a clause
document has a form of its own at every depth: an operand is nested only as a negated
document, `contains` stands before strings only, and a verbatim key is one that no
spelling claims. Lowering relies on this form without looking at it. A lowering that
refuses whatever is out of form refuses nothing that was read, and gives the same query.
-/

namespace Criteria

/-! ## The form of what is read -/

def modifierSpellings : List String :=
  negationSpellings ++ comparisonSpellings ++ ["contains", "like", "startswith", "endswith"]

/-- A modifier that may stand for a key before a value. -/
structure Modifier.From (key : String) (value : Value) (modifier : Modifier) : Prop where
  contains : modifier = .text .contains → value.isString = true
  verbatim : ∀ kept, modifier = .verbatim kept → kept = key ∧
    (Text.lowercase key ∉ modifierSpellings ∨
      Text.lowercase key = "contains" ∧ value.isString = false)

mutual

/-- An operand that stands for a value: nested for a negated document, and the value
itself otherwise. -/
inductive Operand.From : Modifier → Value → Operand → Prop
  | nested {fields : Document} {entries : List (Modifier × Operand)}
      (inner : ModifiersFrom fields entries) :
      Operand.From .not (.document fields) (.nested (.modifiers entries))
  | value {modifier : Modifier} {value : Value}
      (other : modifier = .not → ∀ fields, value ≠ .document fields) :
      Operand.From modifier value (.value value)

/-- Modifiers that stand for the entries of a document, one for each. -/
inductive ModifiersFrom : Document → List (Modifier × Operand) → Prop
  | nil : ModifiersFrom [] []
  | cons {key : String} {value : Value} {modifier : Modifier} {operand : Operand}
      {fields : Document} {entries : List (Modifier × Operand)}
      (chosen : Modifier.From key value modifier) (here : Operand.From modifier value operand)
      (later : ModifiersFrom fields entries) :
      ModifiersFrom ((key, value) :: fields) ((modifier, operand) :: entries)

end

/-- An expression that stands for a value; only a value that is neither a document nor an
array is a scalar. -/
inductive Expression.From : Value → Expression → Prop
  | modifiers {fields : Document} {entries : List (Modifier × Operand)}
      (inner : ModifiersFrom fields entries) :
      Expression.From (.document fields) (.modifiers entries)
  | membership (items : List Value) : Expression.From (.array items) (.membership items)
  | scalar {value : Value} (notDocument : ∀ fields, value ≠ .document fields)
      (notArray : ∀ items, value ≠ .array items) : Expression.From value (.scalar value)

/-- An entry that states nothing: a logical operator over anything but an array, or a like
group that is no document. -/
def Dropped (key : String) (value : Value) : Prop :=
  (∃ operator, ClauseKey.ofKey key = .logical operator ∧ ∀ items, value ≠ .array items) ∨
    ClauseKey.ofKey key = .likeGroup ∧ ∀ group, value ≠ .document group

mutual

/-- A condition that stands for an entry of a clause document. Each member of a like group
has its value as the one operand of a `like`, and a logical operator has one clause for
each element. -/
inductive Entry.From : String → Value → Entry → Prop
  | field {key : String} {value : Value} {expression : Expression}
      (isField : ClauseKey.ofKey key = .field) (asked : Expression.From value expression) :
      Entry.From key value (.field key expression)
  | likeGroup {key : String} (isGroup : ClauseKey.ofKey key = .likeGroup) (group : Document) :
      Entry.From key (.document group) (.likeGroup (group.map fun member =>
        (member.1, .modifiers [(.text .like, .value member.2)])))
  | logical {key : String} {operator : LogicalOperator} {items : List Value}
      {clauses : List Clause} (isLogical : ClauseKey.ofKey key = .logical operator)
      (elements : ElementsFrom items clauses) :
      Entry.From key (.array items) (.logical operator clauses)

/-- Conditions that stand for the entries of a clause document, in order. -/
inductive ClauseFrom : Document → Clause → Prop
  | nil : ClauseFrom [] []
  | dropped {key : String} {value : Value} {fields : Document} {clause : Clause}
      (unstated : Dropped key value) (later : ClauseFrom fields clause) :
      ClauseFrom ((key, value) :: fields) clause
  | cons {key : String} {value : Value} {entry : Entry} {fields : Document} {clause : Clause}
      (here : Entry.From key value entry) (later : ClauseFrom fields clause) :
      ClauseFrom ((key, value) :: fields) (entry :: clause)

inductive ElementsFrom : List Value → List Clause → Prop
  | nil : ElementsFrom [] []
  | cons {item : Value} {clause : Clause} {items : List Value} {clauses : List Clause}
      (here : ClauseFrom item.fields clause) (later : ElementsFrom items clauses) :
      ElementsFrom (item :: items) (clause :: clauses)

end

/-! ## Reading keeps the form -/

namespace Modifier

/-- The spellings of modifiers are all of them. -/
theorem ofLowercase?_eq_none_iff (key : String) :
    ofLowercase? key = none ↔ key ∉ modifierSpellings := by
  constructor
  · intro unspelled spelling
    have spelled : ∀ spelling ∈ modifierSpellings, ofLowercase? spelling ≠ none := by decide
    exact spelled key spelling unspelled
  · simp only [modifierSpellings, negationSpellings, comparisonSpellings, List.mem_append,
      List.mem_cons, List.not_mem_nil, or_false, not_or]
    intro unspelled
    simp [ofLowercase?, unspelled]

theorem eq_contains_of_ofLowercase? {key : String}
    (spelled : ofLowercase? key = some (.text .contains)) : key = "contains" := by
  grind [ofLowercase?]

/-- What a key is resolved to may stand for it. -/
theorem from_resolve (key : String) (value : Value) :
    Modifier.From key value (resolve key value) := by
  rcases resolve_cases key value with ⟨verbatim, free⟩ | ⟨spelled, contains⟩
  · rw [verbatim]
    refine ⟨fun same => absurd same Modifier.noConfusion, ?_⟩
    rintro kept ⟨⟩
    refine ⟨rfl, ?_⟩
    rcases free with unspelled | ⟨contains, notString⟩
    · exact Or.inl ((ofLowercase?_eq_none_iff _).mp unspelled)
    · exact Or.inr ⟨eq_contains_of_ofLowercase? contains, notString⟩
  · refine ⟨contains, fun kept same => ?_⟩
    rw [same] at spelled
    exact absurd spelled (ofLowercase?_ne_verbatim _ kept)

end Modifier

mutual

theorem Operand.from_ofValue (modifier : Modifier) : ∀ value : Value,
    Operand.From modifier value (Operand.ofValue modifier value)
  | .document fields => by
      have inner := modifiersFrom_ofFields fields
      by_cases negated : modifier = .not
      · subst negated
        rw [Operand.ofValue, if_pos rfl]
        exact .nested inner
      · rw [Operand.ofValue, if_neg negated]
        exact .value fun same => absurd same negated
  | .string _ | .array _ | .double _ | .binary _ _ | .undefined | .objectId _ | .boolean _
  | .dateTime _ | .null | .regex _ | .dbPointer _ _ | .code _ | .symbol _
  | .codeWithScope _ _ | .int32 _ | .timestamp _ _ | .int64 _ | .decimal128 _
  | .maxKey | .minKey => .value fun _ _ => Value.noConfusion

theorem modifiersFrom_ofFields : ∀ fields : List (String × Value),
    ModifiersFrom fields (Operand.ofFields fields)
  | [] => .nil
  | (key, value) :: rest =>
      .cons (Modifier.from_resolve key value)
        (Operand.from_ofValue (Modifier.resolve key value) value) (modifiersFrom_ofFields rest)

end

theorem Expression.from_ofValue (value : Value) :
    Expression.From value (Expression.ofValue value) := by
  cases value with
  | document fields => exact .modifiers (modifiersFrom_ofFields fields)
  | array items => exact .membership items
  | _ => exact .scalar (fun _ => Value.noConfusion) (fun _ => Value.noConfusion)

namespace Clause

theorem from_readLikeGroup {key : String} (isGroup : ClauseKey.ofKey key = .likeGroup)
    (value : Value) :
    (Dropped key value ∧ (readLikeGroup value).value = none) ∨
      ∃ entry, Entry.From key value entry ∧ (readLikeGroup value).value = some entry := by
  cases value with
  | document group => exact Or.inr ⟨_, .likeGroup isGroup group, rfl⟩
  | _ => exact Or.inl ⟨Or.inr ⟨isGroup, fun _ => Value.noConfusion⟩, rfl⟩

mutual

/-- Conditions that are read from a clause document stand for its entries. -/
theorem from_read : ∀ fields : List (String × Value), ClauseFrom fields (read fields).value
  | [] => .nil
  | (key, value) :: rest => by
      have later := from_read rest
      have here : (Dropped key value ∧ (readEntry key value).value = none) ∨
          ∃ entry, Entry.From key value entry ∧ (readEntry key value).value = some entry := by
        unfold readEntry
        cases kind : ClauseKey.ofKey key with
        | logical operator => exact from_readLogical kind value
        | likeGroup => exact from_readLikeGroup kind value
        | field => exact Or.inr ⟨_, .field kind (Expression.from_ofValue value), rfl⟩
      rw [read_cons]
      simp only [Reported.value_bind, Reported.value_pure]
      rcases here with ⟨unstated, none⟩ | ⟨entry, stands, some⟩
      · rw [none]
        exact .dropped unstated later
      · rw [some]
        exact .cons stands later

theorem from_readLogical {key : String} {operator : LogicalOperator}
    (isLogical : ClauseKey.ofKey key = .logical operator) : ∀ value : Value,
    (Dropped key value ∧ (readLogical key operator value).value = none) ∨
      ∃ entry, Entry.From key value entry ∧ (readLogical key operator value).value = some entry
  | .array items => Or.inr ⟨_, .logical isLogical (from_readElements items), rfl⟩
  | .document _ | .string _ | .double _ | .binary _ _ | .undefined | .objectId _
  | .boolean _ | .dateTime _ | .null | .regex _ | .dbPointer _ _ | .code _ | .symbol _
  | .codeWithScope _ _ | .int32 _ | .timestamp _ _ | .int64 _ | .decimal128 _
  | .maxKey | .minKey => Or.inl ⟨Or.inl ⟨operator, isLogical, fun _ => Value.noConfusion⟩, rfl⟩

theorem from_readElements : ∀ items : List Value,
    ElementsFrom items (readElements items).value
  | [] => .nil
  | item :: rest => by
      have here := from_readElement item
      have later := from_readElements rest
      exact .cons here later

theorem from_readElement : ∀ item : Value, ClauseFrom item.fields (readElement item).value
  | .document fields => from_read fields
  | .string _ | .array _ | .double _ | .binary _ _ | .undefined | .objectId _
  | .boolean _ | .dateTime _ | .null | .regex _ | .dbPointer _ _ | .code _ | .symbol _
  | .codeWithScope _ _ | .int32 _ | .timestamp _ _ | .int64 _ | .decimal128 _
  | .maxKey | .minKey => .nil

end

end Clause

/-! ## Lowering with guards

The guarded lowering goes the way of the lowering and refuses what is out of form: a text
match that has no pattern, an operand that `contains` would be written for, and an operand
that is nested below anything but a negation. -/

/-- A result with diagnostics that may be refused. -/
abbrev Guarded := OptionT Reported

def Modifier.isTextMatch : Modifier → Bool
  | text _ => true
  | _ => false

/-- The pattern of a modifier for a text, refused for anything but a text match. -/
def Modifier.guardedPattern : Modifier → String → Guarded Regex
  | text kind, shown => pure (Pattern.regex kind shown)
  | _, _ => failure

/-- The key under which a modifier keeps its operand, refused for `contains`. -/
def Modifier.guardedKey (modifier : Modifier) : Guarded String :=
  if modifier = .text .contains then failure else pure modifier.key

namespace Expression

/-- What a modifier writes for an operand that it keeps. -/
def guardedKept (context : Context) (field : String) (modifier : Modifier) (value : Value) :
    Guarded (String × Value) := do
  let coerced ← Coercion.coerceOperand context field modifier value
  let key ← modifier.guardedKey
  pure (key, coerced)

def guardedValue (context : Context) (field : String) (modifier : Modifier) (value : Value) :
    Guarded (String × Value) :=
  if modifier = .not then lowerValue context field modifier value
  else if modifier.isTextMatch then
    match Pattern.operandText? value with
    | some text => do
      let regex ← modifier.guardedPattern text
      pure (regexKey, .regex regex)
    | none => guardedKept context field modifier value
  else guardedKept context field modifier value

mutual

/-- What is asked of a field, with guards. -/
def guarded (context : Context) (field : String) : Expression → Guarded Value
  | .scalar value => Coercion.coerce context field value
  | .membership items => lower context field (.membership items)
  | .modifiers entries => do
    let fields ← guardedModifiers context field entries []
    pure (unwrapRegex fields)

def guardedOperand (context : Context) (field : String) (modifier : Modifier) :
    Operand → Guarded (String × Value)
  | .value value => guardedValue context field modifier value
  | .nested expression =>
    if modifier = .not then do
      let inner ← guarded context field expression
      pure ("$not", inner)
    else failure

def guardedModifiers (context : Context) (field : String) :
    List (Modifier × Operand) → Document → Guarded Document
  | [], written => pure written
  | (modifier, operand) :: rest, written => do
    let (key, value) ← guardedOperand context field modifier operand
    guardedModifiers context field rest (Keyed.insert written key value)

end

end Expression

namespace Clause

def guardedPatterns (context : Context) :
    List (String × Expression) → Document → Guarded Document
  | [], written => pure written
  | (name, expression) :: rest, written => do
    let value ← expression.guarded context name
    guardedPatterns context rest (Keyed.insert written name value)

mutual

def guardedEntries (context : Context) : List Entry → Document → Guarded Document
  | [], written => pure written
  | entry :: rest, written => do
    let more ← guardedEntry context entry written
    guardedEntries context rest more

def guardedEntry (context : Context) : Entry → Document → Guarded Document
  | .field name expression, written => do
    let output := outputName written name
    let value ← expression.guarded context output
    pure (Keyed.insert written output value)
  | .logical operator clauses, written => do
    let documents ← guardedClauses context clauses
    pure (Keyed.insert written operator.key (.array documents))
  | .likeGroup patterns, written => guardedPatterns context patterns written

def guardedClauses (context : Context) : List (List Entry) → Guarded (List Value)
  | [] => pure []
  | clause :: rest => do
    let fields ← guardedEntries context clause []
    let more ← guardedClauses context rest
    pure (.document fields :: more)

end

def guarded (context : Context) (clause : Clause) : Guarded Document :=
  guardedEntries context clause []

end Clause

/-! ## Nothing that is read is refused -/

/-- Behind a step that is always allowed, what is allowed next is allowed altogether. -/
theorem Guarded.lift_bind {α β : Type} (first : Reported α) {next : α → Guarded β}
    {allowed : α → Reported β} (rest : next first.value = OptionT.lift (allowed first.value)) :
    (OptionT.lift first >>= next) = OptionT.lift (first >>= allowed) := by
  have value : (next first.value).run.value = some (allowed first.value).value := by
    rw [rest]
    rfl
  have diagnostics : (next first.value).run.diagnostics = (allowed first.value).diagnostics := by
    rw [rest]
    exact List.append_nil _
  apply Reported.eq_of_parts
  · exact value
  · calc
      (OptionT.lift first >>= next).run.diagnostics
          = (first.diagnostics ++ []) ++ (next first.value).run.diagnostics := rfl
      _ = (first >>= allowed).diagnostics ++ [] := by
          rw [diagnostics, List.append_nil, List.append_nil]
          rfl

namespace Expression

variable (context : Context) (field : String)

/-- The guard on the key refuses `contains` alone. -/
theorem guardedKept_eq {modifier : Modifier} (other : modifier ≠ .text .contains)
    (value : Value) :
    guardedKept context field modifier value =
      OptionT.lift (do
        let coerced ← Coercion.coerceOperand context field modifier value
        pure (modifier.key, coerced)) := by
  unfold guardedKept
  refine Guarded.lift_bind _ ?_
  rw [Modifier.guardedKey, if_neg other]
  rfl

/-- The guards let through every operand that may stand for a value. -/
theorem guardedValue_eq {key : String} {modifier : Modifier} {value : Value}
    (chosen : Modifier.From key value modifier) :
    guardedValue context field modifier value =
      OptionT.lift (lowerValue context field modifier value) := by
  unfold guardedValue
  cases modifier with
  | not => rfl
  | text kind =>
      cases text : Pattern.operandText? value with
      | some shown =>
          rw [if_neg Modifier.noConfusion, Modifier.isTextMatch, if_pos rfl]
          simp only [lowerValue, text]
          rfl
      | none =>
          -- a string has a text, so it is not `contains` that keeps its operand
          have other : Modifier.text kind ≠ .text .contains := by
            intro same
            have isString := chosen.contains same
            cases value with
            | string shown => cases text
            | _ => cases isString
          rw [if_neg Modifier.noConfusion, Modifier.isTextMatch, if_pos rfl]
          simp only [lowerValue, text]
          exact guardedKept_eq context field other value
  | comparison c => exact guardedKept_eq context field Modifier.noConfusion value
  | verbatim kept => exact guardedKept_eq context field Modifier.noConfusion value

theorem guarded_modifiers {entries : List (Modifier × Operand)}
    (through : guardedModifiers context field entries [] =
      OptionT.lift (lowerModifiers context field entries [])) :
    guarded context field (.modifiers entries) =
      OptionT.lift (lower context field (.modifiers entries)) := by
  rw [guarded, lower, through]
  exact Guarded.lift_bind _ rfl

mutual

theorem guardedOperand_eq {key : String} : ∀ {modifier : Modifier} {value : Value}
    {operand : Operand}, Modifier.From key value modifier → Operand.From modifier value operand →
    guardedOperand context field modifier operand =
      OptionT.lift (lowerOperand context field modifier operand)
  | _, _, _, _, .nested inner => by
      have expression := guarded_modifiers context field (guardedModifiers_eq inner [])
      rw [guardedOperand, if_pos rfl, lowerOperand, expression]
      exact Guarded.lift_bind _ rfl
  | _, _, _, chosen, .value _ => guardedValue_eq context field chosen

theorem guardedModifiers_eq : ∀ {fields : Document} {entries : List (Modifier × Operand)},
    ModifiersFrom fields entries → ∀ written : Document,
    guardedModifiers context field entries written =
      OptionT.lift (lowerModifiers context field entries written)
  | _, _, .nil, _ => rfl
  | _, _, .cons chosen here later, written => by
      have first := guardedOperand_eq chosen here
      have rest := guardedModifiers_eq later
      rw [guardedModifiers, lowerModifiers, first]
      exact Guarded.lift_bind _ (rest _)

end

/-- No guard refuses an expression that stands for a value. -/
theorem guarded_eq : ∀ {value : Value} {expression : Expression},
    Expression.From value expression →
    guarded context field expression = OptionT.lift (lower context field expression)
  | _, _, .scalar _ _ => rfl
  | _, _, .membership _ => rfl
  | _, _, .modifiers inner =>
      guarded_modifiers context field (guardedModifiers_eq context field inner [])

end Expression

namespace Clause

variable (context : Context)

/-- A pattern of a like group reads as the one modifier of a document. -/
theorem from_likePattern (value : Value) :
    Expression.From (.document [("like", value)]) (.modifiers [(.text .like, .value value)]) :=
  .modifiers (.cons (Modifier.from_resolve "like" value)
    (.value fun same => absurd same Modifier.noConfusion) .nil)

theorem guardedPatterns_eq : ∀ (group written : Document),
    guardedPatterns context (group.map likePattern) written =
      OptionT.lift (lowerPatterns context (group.map likePattern) written)
  | [], _ => rfl
  | (name, value) :: rest, written => by
      have here := Expression.guarded_eq context name (from_likePattern value)
      rw [List.map_cons, likePattern, guardedPatterns, lowerPatterns, here]
      exact Guarded.lift_bind _ (guardedPatterns_eq rest _)

mutual

theorem guardedEntries_eq : ∀ {fields : Document} {clause : Clause},
    ClauseFrom fields clause → ∀ written : Document,
    guardedEntries context clause written = OptionT.lift (lowerEntries context clause written)
  | _, _, .nil, _ => rfl
  | _, _, .dropped _ later, written => guardedEntries_eq later written
  | _, _, .cons here later, written => by
      rw [guardedEntries, lowerEntries, guardedEntry_eq here written]
      exact Guarded.lift_bind _ (guardedEntries_eq later _)

theorem guardedEntry_eq : ∀ {key : String} {value : Value} {entry : Entry},
    Entry.From key value entry → ∀ written : Document,
    guardedEntry context entry written = OptionT.lift (lowerEntry context entry written)
  | _, _, _, .field _ asked, written => by
      rw [guardedEntry, lowerEntry, Expression.guarded_eq context _ asked]
      exact Guarded.lift_bind _ rfl
  | _, _, _, .likeGroup _ group, written => guardedPatterns_eq context group written
  | _, _, _, .logical _ elements, written => by
      rw [guardedEntry, lowerEntry, guardedClauses_eq elements]
      exact Guarded.lift_bind _ rfl

theorem guardedClauses_eq : ∀ {items : List Value} {clauses : List Clause},
    ElementsFrom items clauses →
    guardedClauses context clauses = OptionT.lift (lowerClauses context clauses)
  | _, _, .nil => rfl
  | _, _, .cons here later => by
      rw [guardedClauses, lowerClauses, guardedEntries_eq here []]
      refine Guarded.lift_bind _ ?_
      rw [guardedClauses_eq later]
      exact Guarded.lift_bind _ rfl

end

/-- A clause that is read has the form of its document at every depth, and lowering it
meets no guard. -/
theorem read_wellFormed (fields : Document) :
    ClauseFrom fields (read fields).value ∧
      ∀ context : Context, guarded context (read fields).value =
        OptionT.lift (lower context (read fields).value) := by
  have form := from_read fields
  exact ⟨form, fun context => guardedEntries_eq context form []⟩

-- it is the reading that keeps the guards idle: a clause made by hand can be refused
example : ((guarded ⟨Schema.empty, {}⟩ [.field "a" (.modifiers
    [(.comparison .lessThan, .nested (.scalar .null))])]).run.value).isNone = true ∧
    ((guarded ⟨Schema.empty, {}⟩ [.field "a" (.modifiers
      [(.text .contains, .value .null)])]).run.value).isNone = true := by
  decide

end Clause

end Criteria
