import Criteria.Proofs.Clause.Sources
import Criteria.Proofs.Coercion.Dates
import Criteria.Proofs.Coercion.Front

/-!
# The diagnostics of a query

`Remarks` says what a query has to report, from the criteria alone: one walk over the
clauses of a `where` lists the parts of the wrong shape, and a second one lists the
strings that are read under the declared type of a field, with the name that this
field is written under. A query reports the first list and then, for each string of
the second, whether its type cannot read it.
-/

namespace Criteria

namespace Remarks

/-! ## Parts of the wrong shape -/

def groupShapes : Value → List Diagnostic
  | .document _ => []
  | other => [.nonDocumentLikeGroup other.kind]

mutual

/-- The parts of a clause document that have the wrong shape, in order. -/
def shapes : List (String × Value) → List Diagnostic
  | [] => []
  | (key, value) :: rest =>
    (match ClauseKey.ofKey key with
      | .logical _ => logicalShapes key value
      | .likeGroup => groupShapes value
      | .field => []) ++ shapes rest

def logicalShapes (key : String) : Value → List Diagnostic
  | .array items => elementsShapes items
  | other => [.droppedLogicalKey key other.kind]

def elementsShapes : List Value → List Diagnostic
  | [] => []
  | item :: rest => elementShapes item ++ elementsShapes rest

def elementShapes : Value → List Diagnostic
  | .document fields => shapes fields
  | .null => []
  | other => [.nonDocumentClause other.kind]

end

/-! ## Strings under a declared type -/

/-- Whether a modifier has a string operand read under the type of its field: a text
match takes it as a text, and the store's own inequality as it is. -/
def readsOperand : Modifier → Bool
  | .text _ => false
  | .verbatim key => key ≠ "$ne"
  | _ => true

mutual

/-- The strings among what is asked of a field, in order: the value itself, or the
operands of its modifiers and of those below a negation. -/
def askedTexts : Value → List String
  | .string text => [text]
  | .document fields => modifierTexts fields
  | _ => []

def modifierTexts : List (String × Value) → List String
  | [] => []
  | (key, value) :: rest =>
    operandTexts (Modifier.resolve key value) value ++ modifierTexts rest

def operandTexts (modifier : Modifier) : Value → List String
  | .string text => if readsOperand modifier then [text] else []
  | .document fields => if modifier = .not then modifierTexts fields else []
  | _ => []

end

mutual

/-- The strings of a clause document that are read under a declared type, in order,
each behind the name that its field is written under. -/
def texts (before : List String) : List (String × Value) → List (String × String)
  | [] => []
  | (key, value) :: rest =>
    (match ClauseKey.ofKey key with
      | .logical _ => logicalTexts value
      | .likeGroup => []
      | .field => (askedTexts value).map (Prod.mk (Clause.nameAfter before key))) ++
      texts (before ++ Keyed.keys (Clause.entrySources before key value)) rest

def logicalTexts : Value → List (String × String)
  | .array items => elementsTexts items
  | _ => []

def elementsTexts : List Value → List (String × String)
  | [] => []
  | item :: rest => elementTexts item ++ elementsTexts rest

def elementTexts : Value → List (String × String)
  | .document fields => texts [] fields
  | _ => []

end

/-- What there is to say of a string under a name: nothing if it is converted to an
identifier, and otherwise whether the declared type of the name cannot read it. -/
def ofText (context : Context) (name text : String) : List Diagnostic :=
  if context.options.objectIdIdentity ∧ name = identityField ∧
      (ObjectId.ofText? text).isSome then []
  else
    match context.schema.type? name with
    | some .integer =>
      if Coercion.hasIntegerPrefix text then [] else [.unparsableNumber name .integer text]
    | some .float =>
      if Coercion.hasRealPrefix text then [] else [.unparsableNumber name .float text]
    | some .datetime =>
      if (Coercion.instant? text).isSome then [] else [.unparsableDate name .datetime text]
    | some .date =>
      if Coercion.isInstant text ∧ Coercion.instant? text = none then
        [.unparsableDate name .date text]
      else []
    | _ => []

/-! ## Whole criteria -/

def ofWhere (context : Context) : Value → List Diagnostic
  | .document fields =>
    shapes fields ++ (texts [] fields).flatMap fun read => ofText context read.1 read.2
  | .null => []
  | other => [.nonDocumentWhere other.kind]

def ofSort : Value → List Diagnostic
  | .document _ => []
  | .null => []
  | other => [.nonDocumentSort other.kind]

def ofEntry (context : Context) (key : String) (value : Value) : List Diagnostic :=
  if key = whereKey then ofWhere context value
  else if key = sortKey then ofSort value
  else []

end Remarks

open Remarks

/-! ## Reading reports the shapes -/

namespace Clause

theorem diagnostics_readLikeGroup (value : Value) :
    (readLikeGroup value).diagnostics = groupShapes value := by
  cases value <;> rfl

mutual

/-- Reading reports the parts of the wrong shape, in order. -/
theorem diagnostics_read : ∀ fields : List (String × Value),
    (read fields).diagnostics = shapes fields
  | [] => rfl
  | (key, value) :: rest => by
      have here : (readEntry key value).diagnostics =
          match ClauseKey.ofKey key with
          | .logical _ => logicalShapes key value
          | .likeGroup => groupShapes value
          | .field => [] := by
        unfold readEntry
        cases ClauseKey.ofKey key with
        | logical operator => exact diagnostics_readLogical key operator value
        | likeGroup => exact diagnostics_readLikeGroup value
        | field => rfl
      have later := diagnostics_read rest
      rw [read_cons, Reported.diagnostics_bind, Reported.diagnostics_bind,
        Reported.diagnostics_pure, List.append_nil, here, later, shapes]

theorem diagnostics_readLogical (key : String) (operator : LogicalOperator) :
    ∀ value : Value, (readLogical key operator value).diagnostics = logicalShapes key value
  | .array items => by
      have elements := diagnostics_readElements items
      rw [readLogical, Reported.diagnostics_bind, Reported.diagnostics_pure, List.append_nil,
        elements, logicalShapes]
  | .string _ | .document _ | .double _ | .binary _ _ | .undefined | .objectId _
  | .boolean _ | .dateTime _ | .null | .regex _ | .dbPointer _ _ | .code _ | .symbol _
  | .codeWithScope _ _ | .int32 _ | .timestamp _ _ | .int64 _ | .decimal128 _
  | .maxKey | .minKey => rfl

theorem diagnostics_readElements : ∀ items : List Value,
    (readElements items).diagnostics = elementsShapes items
  | [] => rfl
  | item :: rest => by
      have here := diagnostics_readElement item
      have later := diagnostics_readElements rest
      rw [readElements, Reported.diagnostics_bind, Reported.diagnostics_bind,
        Reported.diagnostics_pure, List.append_nil, here, later, elementsShapes]

theorem diagnostics_readElement : ∀ item : Value,
    (readElement item).diagnostics = elementShapes item
  | .document fields => diagnostics_read fields
  | .string _ | .array _ | .double _ | .binary _ _ | .undefined | .objectId _
  | .boolean _ | .dateTime _ | .null | .regex _ | .dbPointer _ _ | .code _ | .symbol _
  | .codeWithScope _ _ | .int32 _ | .timestamp _ _ | .int64 _ | .decimal128 _
  | .maxKey | .minKey => rfl

end

end Clause

/-! ## Coercion reports the strings that no type can read -/

namespace Coercion

theorem diagnostics_numberOr (context : Context) (field : String) (type : FieldType)
    (text : String) (read : Option Value) :
    (numberOr context field type text read).diagnostics =
      if read.isSome then [] else [.unparsableNumber field type text] := by
  cases read <;> rfl

theorem diagnostics_dateOr (field : String) (type : FieldType) (text : String)
    (read : Option Int) :
    (dateOr field type text read).diagnostics =
      if read.isSome then [] else [.unparsableDate field type text] := by
  cases read <;> rfl

theorem diagnostics_calendarValue (field text : String) :
    (calendarValue field text).diagnostics =
      if isInstant text ∧ instant? text = none then [.unparsableDate field .date text]
      else [] := by
  unfold calendarValue
  by_cases shape : isInstant text = true
  · rw [if_pos shape, diagnostics_dateOr]
    cases read : instant? text <;> simp [shape]
  · rw [if_neg shape, if_neg fun both => shape both.1]
    -- the days of a date that was read can always be counted on
    cases read : calendarDate? text with
    | none => rfl
    | some date =>
        obtain ⟨milliseconds, rolled⟩ := exists_rolledMidnight? read
        rw [diagnostics_dateOr, rolled, Option.isSome_some, if_pos rfl]

/-- A string is reported if its declared type cannot read it and it is no identifier. -/
theorem diagnostics_coerce_string (context : Context) (field text : String) :
    (coerce context field (.string text)).diagnostics = ofText context field text := by
  by_cases identified : context.options.Identifies field text
  · rw [coerce_string_of_identifies context identified, ofText, if_pos identified]
    rfl
  · rw [coerce_string_of_not_identifies context identified, ofText, if_neg identified]
    unfold typed
    cases context.schema.type? field with
    | none => rfl
    | some type =>
        cases type with
        | integer => rw [diagnostics_numberOr, isSome_integer?]
        | float => rw [diagnostics_numberOr, Option.isSome_map, isSome_float?]
        | date => exact diagnostics_calendarValue field text
        | datetime => exact diagnostics_dateOr field .datetime text _
        | string | boolean | other _ => rfl

theorem diagnostics_coerce_of_ne_string {value : Value} (notString : value.isString = false)
    (context : Context) (field : String) : (coerce context field value).diagnostics = [] := by
  rcases string_or_array_or_fixed value with ⟨text, rfl⟩ | ⟨items, rfl⟩ | fixed
  · cases notString
  · rw [coerce_array]
    rfl
  · rw [coerce_of_fixed context field fixed]
    rfl

theorem diagnostics_coerceOperand_of_ne_string {value : Value}
    (notString : value.isString = false) (context : Context) (field : String)
    (modifier : Modifier) : (coerceOperand context field modifier value).diagnostics = [] := by
  unfold coerceOperand
  split
  · rfl
  · exact diagnostics_coerce_of_ne_string notString context field

end Coercion

namespace Expression

variable (context : Context) (field : String)

/-- Lowering an operand reports what its coercion reports, but a text is not
coerced. -/
theorem diagnostics_lowerValue (modifier : Modifier) (value : Value) :
    (lowerValue context field modifier value).diagnostics = [] ∧
        (∃ kind, modifier = .text kind) ∧ (Pattern.operandText? value).isSome = true ∨
      (lowerValue context field modifier value).diagnostics =
        (Coercion.coerceOperand context field modifier value).diagnostics := by
  cases modifier with
  | not =>
      refine Or.inr ?_
      simp only [lowerValue, Reported.diagnostics_bind]
      split <;> exact List.append_nil _
  | text kind =>
      cases text : Pattern.operandText? value with
      | some shown =>
          refine Or.inl ⟨?_, ⟨kind, rfl⟩, rfl⟩
          simp only [lowerValue, text, Reported.diagnostics_pure]
      | none =>
          refine Or.inr ?_
          simp only [lowerValue, text, Reported.diagnostics_bind, Reported.diagnostics_pure,
            List.append_nil]
  | comparison _ => exact Or.inr (List.append_nil _)
  | verbatim _ => exact Or.inr (List.append_nil _)

theorem diagnostics_lowerValue_of_ne_string (modifier : Modifier) {value : Value}
    (notString : value.isString = false) :
    (lowerValue context field modifier value).diagnostics = [] := by
  rcases diagnostics_lowerValue context field modifier value with ⟨none, -⟩ | coerced
  · exact none
  · rw [coerced, Coercion.diagnostics_coerceOperand_of_ne_string notString]

/-- A string operand is reported only where it is read under its field. -/
theorem diagnostics_lowerValue_string (modifier : Modifier) (text : String) :
    (lowerValue context field modifier (.string text)).diagnostics =
      if readsOperand modifier then ofText context field text else [] := by
  cases modifier with
  | text kind => rfl
  | verbatim key =>
      rcases diagnostics_lowerValue context field (.verbatim key) (.string text) with
        ⟨-, ⟨kind, impossible⟩, -⟩ | coerced
      · cases impossible
      · rw [coerced]
        by_cases inequality : key = "$ne"
        · subst inequality
          rfl
        · have other : Modifier.verbatim key ≠ .verbatim "$ne" :=
            fun same => inequality (Modifier.verbatim.inj same)
          rw [Coercion.coerceOperand_of_ne other, Coercion.diagnostics_coerce_string]
          simp [readsOperand, inequality]
  | comparison c =>
      exact (List.append_nil _).trans (Coercion.diagnostics_coerce_string context field text)
  | not =>
      rcases diagnostics_lowerValue context field .not (.string text) with
        ⟨-, ⟨kind, impossible⟩, -⟩ | coerced
      · cases impossible
      · rw [coerced]
        exact Coercion.diagnostics_coerce_string context field text

mutual

/-- What is asked of a field is reported text by text. -/
theorem diagnostics_lower : ∀ value : Value,
    (lower context field (ofValue value)).diagnostics =
      (askedTexts value).flatMap fun text => ofText context field text
  | .document fields => by
      have modifiers := diagnostics_lowerFields fields
      rw [ofValue, diagnostics_lower_modifiers, diagnostics_emitted_ofFields, modifiers,
        askedTexts]
  | .string text => by
      rw [askedTexts, List.flatMap_singleton]
      exact Coercion.diagnostics_coerce_string context field text
  | .array items => by
      rw [ofValue, lower, Coercion.coerce_array]
      rfl
  | .double _ | .binary _ _ | .undefined | .objectId _ | .boolean _ | .dateTime _ | .null
  | .regex _ | .dbPointer _ _ | .code _ | .symbol _ | .codeWithScope _ _ | .int32 _
  | .timestamp _ _ | .int64 _ | .decimal128 _ | .maxKey | .minKey =>
      Coercion.diagnostics_coerce_of_ne_string rfl context field

theorem diagnostics_lowerFields : ∀ fields : List (String × Value),
    (fields.flatMap fun entry => (lowerField context field entry).diagnostics) =
      (modifierTexts fields).flatMap fun text => ofText context field text
  | [] => rfl
  | (key, value) :: rest => by
      have here := diagnostics_lowerOperand (Modifier.resolve key value) value
      have later := diagnostics_lowerFields rest
      rw [List.flatMap_cons, later, modifierTexts, List.flatMap_append, ← here]
      rfl

theorem diagnostics_lowerOperand (modifier : Modifier) : ∀ value : Value,
    (lowerOperand context field modifier (Operand.ofValue modifier value)).diagnostics =
      (operandTexts modifier value).flatMap fun text => ofText context field text
  | .document fields => by
      have modifiers := diagnostics_lowerFields fields
      by_cases negated : modifier = .not
      · rw [Operand.ofValue, if_pos negated, lowerOperand, Reported.diagnostics_bind,
          Reported.diagnostics_pure, List.append_nil, diagnostics_lower_modifiers,
          diagnostics_emitted_ofFields, modifiers, operandTexts, if_pos negated]
      · rw [Operand.ofValue, if_neg negated, lowerOperand, operandTexts, if_neg negated]
        exact diagnostics_lowerValue_of_ne_string context field modifier rfl
  | .string text => by
      rw [operandTexts]
      refine (diagnostics_lowerValue_string context field modifier text).trans ?_
      split
      · rw [List.flatMap_singleton]
      · rfl
  | .array _ | .double _ | .binary _ _ | .undefined | .objectId _ | .boolean _ | .dateTime _
  | .null | .regex _ | .dbPointer _ _ | .code _ | .symbol _ | .codeWithScope _ _ | .int32 _
  | .timestamp _ _ | .int64 _ | .decimal128 _ | .maxKey | .minKey =>
      diagnostics_lowerValue_of_ne_string context field modifier rfl

end

end Expression

namespace Clause

variable (context : Context)

theorem diagnostics_lowerPattern (name : String) (value : Value) :
    (Source.lower context name (.pattern value)).diagnostics = [] := by
  have noText : askedTexts (.document [("like", value)]) = [] := by
    cases value <;> rfl
  refine (Expression.diagnostics_lower context name _).trans ?_
  rw [noText]
  rfl

mutual

theorem diagnostics_sources (before : List String) : ∀ fields : List (String × Value),
    (lowerSources context (sources before fields)).diagnostics =
      (texts before fields).flatMap fun read => ofText context read.1 read.2
  | [] => rfl
  | (key, value) :: rest => by
      have here : (lowerSources context (entrySources before key value)).diagnostics =
          (match ClauseKey.ofKey key with
            | .logical _ => logicalTexts value
            | .likeGroup => []
            | .field => (askedTexts value).map (Prod.mk (nameAfter before key))).flatMap
              fun read : String × String => ofText context read.1 read.2 := by
        cases kind : ClauseKey.ofKey key with
        | logical operator => exact diagnostics_logicalSources before key kind value
        | likeGroup =>
            rw [diagnostics_lowerSources]
            refine List.flatMap_eq_nil_iff.2 fun entry member => ?_
            rcases mem_entrySources member with
              ⟨operator, -, other, -⟩ | ⟨pattern, -, -, source⟩ | ⟨other, -⟩
            · cases kind.symm.trans other
            · rw [source]
              exact diagnostics_lowerPattern context entry.1 pattern
            · cases kind.symm.trans other
        | field =>
            rw [entrySources_of_field kind, diagnostics_lowerSources, List.flatMap_singleton,
              List.flatMap_map]
            exact Expression.diagnostics_lower context (nameAfter before key) value
      have later := diagnostics_sources
        (before ++ Keyed.keys (entrySources before key value)) rest
      rw [sources, lowerSources_append, Reported.diagnostics_bind, Reported.diagnostics_bind,
        Reported.diagnostics_pure, List.append_nil, here, later, texts, List.flatMap_append]

theorem diagnostics_logicalSources (before : List String) (key : String)
    {operator : LogicalOperator} (kind : ClauseKey.ofKey key = .logical operator) :
    ∀ value : Value, (lowerSources context (entrySources before key value)).diagnostics =
      (logicalTexts value).flatMap fun read => ofText context read.1 read.2
  | .array items => by
      have elements := diagnostics_lowerElements items
      rw [entrySources_of_logical kind, logicalTexts, ← elements, diagnostics_lowerSources,
        List.flatMap_singleton]
      exact Reported.diagnostics_map Value.array _
  | .string _ | .document _ | .double _ | .binary _ _ | .undefined | .objectId _
  | .boolean _ | .dateTime _ | .null | .regex _ | .dbPointer _ _ | .code _ | .symbol _
  | .codeWithScope _ _ | .int32 _ | .timestamp _ _ | .int64 _ | .decimal128 _
  | .maxKey | .minKey => by
      unfold entrySources
      rw [kind]
      rfl

theorem diagnostics_lowerElements : ∀ items : List Value,
    (lowerClauses context (readElements items).value).diagnostics =
      (elementsTexts items).flatMap fun read => ofText context read.1 read.2
  | [] => rfl
  | item :: rest => by
      have here := diagnostics_lowerElement item
      have later := diagnostics_lowerElements rest
      rw [elementsTexts, List.flatMap_append, ← here, ← later, readElements]
      simp only [Reported.value_bind, Reported.value_pure, lowerClauses,
        Reported.diagnostics_bind, Reported.diagnostics_pure, List.append_nil]
      rfl

theorem diagnostics_lowerElement : ∀ item : Value,
    (lower context (readElement item).value).diagnostics =
      (elementTexts item).flatMap fun read => ofText context read.1 read.2
  | .document fields => by
      have level := diagnostics_sources [] fields
      rw [readElement, lower_read, Reported.diagnostics_map, level, elementTexts]
  | .string _ | .array _ | .double _ | .binary _ _ | .undefined | .objectId _
  | .boolean _ | .dateTime _ | .null | .regex _ | .dbPointer _ _ | .code _ | .symbol _
  | .codeWithScope _ _ | .int32 _ | .timestamp _ _ | .int64 _ | .decimal128 _
  | .maxKey | .minKey => rfl

end

end Clause

/-! ## Queries -/

/-- Conditions report first the wrong shapes and then the unread texts. -/
theorem diagnostics_whereQuery (context : Context) (value : Value) :
    (whereQuery context value).diagnostics = ofWhere context value := by
  cases value with
  | document fields =>
      have lowered := Clause.diagnostics_lowerElement context (.document fields)
      rw [whereQuery, Reported.diagnostics_bind, Clause.diagnostics_read, ofWhere]
      exact congrArg (shapes fields ++ ·) lowered
  | _ => rfl

theorem diagnostics_entryQuery (context : Context) (key : String) (value : Value) :
    (entryQuery context key value).diagnostics = ofEntry context key value := by
  unfold entryQuery ofEntry
  by_cases isWhere : key = whereKey
  · rw [if_pos isWhere, if_pos isWhere, Reported.diagnostics_map, diagnostics_whereQuery]
  · rw [if_neg isWhere, if_neg isWhere]
    by_cases isSort : key = sortKey
    · rw [if_pos isSort, if_pos isSort, Reported.diagnostics_map]
      cases value <;> rfl
    · rw [if_neg isSort, if_neg isSort]
      rfl

/-- A query reports what there is to say of the entries of its criteria, entry by
entry, and nothing else. -/
theorem query_diagnostics (context : Context) (criteria : Document) :
    (query context criteria).diagnostics =
      criteria.flatMap fun entry => ofEntry context entry.1 entry.2 := by
  induction criteria with
  | nil => rfl
  | cons entry rest ih =>
      rw [query, Reported.diagnostics_bind, Reported.diagnostics_bind,
        Reported.diagnostics_pure, List.append_nil, diagnostics_entryQuery, ih,
        List.flatMap_cons]

end Criteria
