import Criteria.Proofs.Remarks

/-!
# Where values become identifiers

A query with identifiers is the plain query of other criteria: of those in which the
identifiers stand already. `Identity` puts them there. It follows the names that fields
are written under, and turns what stands under the store's name of the identity: the
value that is asked for, and the operands of its modifiers, but neither the operand of
the store's own inequality nor the text of a text match.
-/

namespace Criteria

/-- The context that makes no identifiers. -/
def Context.plain (context : Context) : Context :=
  { context with options := { context.options with objectIdIdentity := false } }

namespace Identity

open Coercion (toObjectId toObjectIds)

/-! ## Criteria with identifiers in place -/

mutual

/-- What is asked of the identity. -/
def asked : Value → Value
  | .document fields => .document (modifiers fields)
  | value => toObjectId value

def modifiers : List (String × Value) → List (String × Value)
  | [] => []
  | (key, value) :: rest => (key, operand (Modifier.resolve key value) value) :: modifiers rest

/-- An operand of the identity. A string is left alone where no string is read, and a
document is entered below a negation only. -/
def operand (modifier : Modifier) : Value → Value
  | .document fields =>
    if modifier = .not then .document (modifiers fields) else .document fields
  | .string text =>
    if Remarks.readsOperand modifier then toObjectId (.string text) else .string text
  | .array items =>
    if modifier = .verbatim "$ne" then .array items else .array (toObjectIds items)
  | value => value

end

def field (name : String) (value : Value) : Value :=
  if name = identityField then asked value else value

def pattern (name : String) (value : Value) : Value :=
  if name = identityField then operand (.text .like) value else value

def group : Value → Value
  | .document members => .document (Keyed.mapEntries pattern members)
  | value => value

mutual

/-- A clause document behind the names that its level has so far. -/
def clause (before : List String) : List (String × Value) → List (String × Value)
  | [] => []
  | (key, value) :: rest =>
    (key, match ClauseKey.ofKey key with
      | .logical _ => logical value
      | .likeGroup => group value
      | .field => field (Clause.nameAfter before key) value) ::
      clause (before ++ Keyed.keys (Clause.entrySources before key value)) rest

def logical : Value → Value
  | .array items => .array (elements items)
  | value => value

def elements : List Value → List Value
  | [] => []
  | item :: rest => element item :: elements rest

def element : Value → Value
  | .document fields => .document (clause [] fields)
  | value => value

end

/-- The value of one entry of a clause document behind some names. -/
def entry (before : List String) (key : String) (value : Value) : Value :=
  match ClauseKey.ofKey key with
  | .logical _ => logical value
  | .likeGroup => group value
  | .field => field (Clause.nameAfter before key) value

theorem clause_cons (before : List String) (key : String) (value : Value)
    (rest : List (String × Value)) :
    clause before ((key, value) :: rest) =
      (key, entry before key value) ::
        clause (before ++ Keyed.keys (Clause.entrySources before key value)) rest := by
  rw [clause]
  rfl

/-- Criteria with identifiers in place: those of their conditions. -/
def criteria (fields : Document) : Document :=
  Keyed.mapEntries (fun key value => if key = whereKey then element value else value) fields

end Identity

/-! ## Coercion -/

namespace Coercion

variable (context : Context)

/-- Off the identity, a context converts as the plain one does. -/
theorem coerce_plain_of_ne {field : String} (other : field ≠ identityField) (value : Value) :
    coerce context field value = coerce context.plain field value := by
  unfold coerce
  rw [if_neg fun both => other both.2, if_neg fun both => other both.2]
  rfl

/-- On the identity, identifiers are made first and the rest is plain. -/
theorem coerce_identity {context : Context}
    (identifying : context.options.objectIdIdentity = true) (value : Value) :
    coerce context identityField value =
      coerce context.plain identityField (toObjectId value) := by
  unfold coerce
  rw [if_pos ⟨identifying, rfl⟩, if_neg fun both => Bool.noConfusion both.1]
  rfl

end Coercion

/-! ## Expressions -/

namespace Expression

/-- What a modifier writes depends on the operand through its text and its coerced value. -/
theorem lowerValue_congr {first second : Context} {field : String} {modifier : Modifier}
    {value other : Value}
    (text : ∀ kind, modifier = .text kind →
      Pattern.operandText? value = Pattern.operandText? other)
    (coerced : Coercion.coerceOperand first field modifier value =
      Coercion.coerceOperand second field modifier other) :
    lowerValue first field modifier value = lowerValue second field modifier other := by
  cases modifier with
  | text kind => simp only [lowerValue, text kind rfl, coerced]
  | not | comparison _ | verbatim _ => simp only [lowerValue, coerced]

section

variable {first second : Context} {field : String}

mutual

/-- Where two contexts convert alike, they lower alike. -/
theorem lower_congr
    (same : ∀ value, Coercion.coerce first field value = Coercion.coerce second field value) :
    ∀ expression : Expression, lower first field expression = lower second field expression
  | .scalar value => same value
  | .membership items => by rw [lower, lower, same]
  | .modifiers entries => by rw [lower, lower, lowerModifiers_congr same entries]

theorem lowerOperand_congr
    (same : ∀ value, Coercion.coerce first field value = Coercion.coerce second field value)
    (modifier : Modifier) : ∀ operand : Operand,
    lowerOperand first field modifier operand = lowerOperand second field modifier operand
  | .value value => by
      have coerced : Coercion.coerceOperand first field modifier value =
          Coercion.coerceOperand second field modifier value := by
        rw [Coercion.coerceOperand, Coercion.coerceOperand, same]
      exact lowerValue_congr (fun _ _ => rfl) coerced
  | .nested expression => by
      rw [lowerOperand, lowerOperand, lower_congr same expression]

theorem lowerModifiers_congr
    (same : ∀ value, Coercion.coerce first field value = Coercion.coerce second field value) :
    ∀ (entries : List (Modifier × Operand)) (written : Document),
    lowerModifiers first field entries written = lowerModifiers second field entries written
  | [], _ => rfl
  | (modifier, operand) :: rest, written => by
      have here := lowerOperand_congr same modifier operand
      have later := lowerModifiers_congr same rest
      simp only [lowerModifiers, here, later]

end

end

/-! ### Modifiers and their operands -/

/-- A key before a string that is read under its type asks for the same before any
operand. -/
theorem resolve_of_readsOperand {key text : String}
    (reads : Remarks.readsOperand (Modifier.resolve key (.string text)) = true)
    (operand : Value) : Modifier.resolve key operand = Modifier.resolve key (.string text) := by
  unfold Modifier.resolve at reads ⊢
  cases spelled : Modifier.ofLowercase? (Text.lowercase key) with
  | none => rfl
  | some modifier =>
      cases modifier with
      | text kind =>
          rw [spelled] at reads
          cases kind <;> cases reads
      | not | comparison _ | verbatim _ => rfl

/-- A modifier is resolved before an operand with identifiers as before the operand
itself. -/
theorem resolve_operand (key : String) (value : Value) :
    Modifier.resolve key (Identity.operand (Modifier.resolve key value) value) =
      Modifier.resolve key value := by
  rcases Coercion.string_or_array_or_fixed value with ⟨text, rfl⟩ | ⟨items, rfl⟩ | fixed
  · rw [Identity.operand]
    by_cases reads : Remarks.readsOperand (Modifier.resolve key (.string text)) = true
    · exact resolve_of_readsOperand reads _
    · rw [if_neg reads]
  · rw [Identity.operand]
    split <;> rfl
  · cases value with
    | string _ => exact fixed.elim
    | array _ => exact fixed.elim
    | document fields =>
        rw [Identity.operand]
        split <;> rfl
    | _ => rfl

variable {context : Context}

/-- A string operand of the identity may be converted beforehand. -/
theorem lowerValue_identity_string (identifying : context.options.objectIdIdentity = true)
    (modifier : Modifier) (text : String) :
    lowerValue context identityField modifier (.string text) =
      lowerValue context.plain identityField modifier
        (Identity.operand modifier (.string text)) := by
  rw [Identity.operand]
  by_cases reads : Remarks.readsOperand modifier = true
  · rw [if_pos reads]
    have notText : ∀ kind, modifier ≠ .text kind := by
      rintro kind rfl
      cases reads
    have other : modifier ≠ .verbatim "$ne" := by
      rintro rfl
      cases reads
    refine lowerValue_congr (fun kind same => absurd same (notText kind)) ?_
    rw [Coercion.coerceOperand_of_ne other, Coercion.coerceOperand_of_ne other,
      Coercion.coerce_identity identifying]
  · rw [if_neg reads]
    cases modifier with
    | text kind => rfl
    | verbatim key =>
        have inequality : key = "$ne" := by simpa [Remarks.readsOperand] using reads
        rw [inequality]
        rfl
    | not | comparison _ => exact absurd rfl reads

theorem lowerValue_identity_array (identifying : context.options.objectIdIdentity = true)
    (modifier : Modifier) (items : List Value) :
    lowerValue context identityField modifier (.array items) =
      lowerValue context.plain identityField modifier
        (Identity.operand modifier (.array items)) := by
  rw [Identity.operand]
  by_cases inequality : modifier = .verbatim "$ne"
  · rw [if_pos inequality, inequality]
    rfl
  · rw [if_neg inequality]
    refine lowerValue_congr (fun _ _ => rfl) ?_
    rw [Coercion.coerceOperand_of_ne inequality, Coercion.coerceOperand_of_ne inequality,
      Coercion.coerce_identity identifying, Coercion.toObjectId]

theorem lowerValue_plain_of_fixed (field : String) (modifier : Modifier) {value : Value}
    (fixed : Coercion.Fixed value) :
    lowerValue context field modifier value = lowerValue context.plain field modifier value := by
  refine lowerValue_congr (fun _ _ => rfl) ?_
  rw [Coercion.coerceOperand, Coercion.coerceOperand,
    Coercion.coerce_of_fixed context field fixed,
    Coercion.coerce_of_fixed context.plain field fixed]

theorem ofValue_toObjectId_string (text : String) :
    ofValue (Coercion.toObjectId (.string text)) =
      .scalar (Coercion.toObjectId (.string text)) := by
  rw [Coercion.toObjectId]
  cases ObjectId.ofText? text <;> rfl

mutual

/-- On the identity, what is asked is lowered as with identifiers in the plain context. -/
theorem lower_identity (identifying : context.options.objectIdIdentity = true) :
    ∀ value : Value, lower context identityField (ofValue value) =
      lower context.plain identityField (ofValue (Identity.asked value))
  | .document fields => by
      rw [Identity.asked, ofValue, ofValue, lower, lower,
        lowerModifiers_identity identifying fields]
  | .string text => by
      rw [Identity.asked, ofValue_toObjectId_string]
      · exact Coercion.coerce_identity identifying (.string text)
      · exact fun _ => Value.noConfusion
  | .array items => by
      have members := Coercion.coerce_identity identifying (.array items)
      rw [Identity.asked, ofValue, Coercion.toObjectId, ofValue, lower, lower, members]
      · rfl
      · exact fun _ => Value.noConfusion
  | .double _ | .binary _ _ | .undefined | .objectId _ | .boolean _ | .dateTime _ | .null
  | .regex _ | .dbPointer _ _ | .code _ | .symbol _ | .codeWithScope _ _ | .int32 _
  | .timestamp _ _ | .int64 _ | .decimal128 _ | .maxKey | .minKey =>
      Coercion.coerce_identity identifying _

theorem lowerModifiers_identity (identifying : context.options.objectIdIdentity = true) :
    ∀ (fields : List (String × Value)) (written : Document),
    lowerModifiers context identityField (Operand.ofFields fields) written =
      lowerModifiers context.plain identityField
        (Operand.ofFields (Identity.modifiers fields)) written
  | [], _ => rfl
  | (key, value) :: rest, written => by
      have here := lowerOperand_identity identifying (Modifier.resolve key value) value
      have later := lowerModifiers_identity identifying rest
      simp only [Identity.modifiers, Operand.ofFields, resolve_operand, lowerModifiers, here,
        later]

theorem lowerOperand_identity (identifying : context.options.objectIdIdentity = true)
    (modifier : Modifier) : ∀ value : Value,
    lowerOperand context identityField modifier (Operand.ofValue modifier value) =
      lowerOperand context.plain identityField modifier
        (Operand.ofValue modifier (Identity.operand modifier value))
  | .document fields => by
      have inner := lowerModifiers_identity identifying fields
      by_cases negated : modifier = .not
      · rw [Identity.operand, if_pos negated, Operand.ofValue, Operand.ofValue, if_pos negated,
          if_pos negated, lowerOperand, lowerOperand, lower, lower, inner]
      · rw [Identity.operand, if_neg negated, Operand.ofValue_of_ne negated]
        exact lowerValue_plain_of_fixed identityField modifier trivial
  | .string text => by
      have kept : Operand.ofValue modifier (Identity.operand modifier (.string text)) =
          .value (Identity.operand modifier (.string text)) := by
        rw [Identity.operand, Coercion.toObjectId]
        split
        · cases ObjectId.ofText? text <;> rfl
        · rfl
      rw [kept]
      exact lowerValue_identity_string identifying modifier text
  | .array items => by
      have kept : Operand.ofValue modifier (Identity.operand modifier (.array items)) =
          .value (Identity.operand modifier (.array items)) := by
        rw [Identity.operand]
        split <;> rfl
      rw [kept]
      exact lowerValue_identity_array identifying modifier items
  | .double _ | .binary _ _ | .undefined | .objectId _ | .boolean _ | .dateTime _ | .null
  | .regex _ | .dbPointer _ _ | .code _ | .symbol _ | .codeWithScope _ _ | .int32 _
  | .timestamp _ _ | .int64 _ | .decimal128 _ | .maxKey | .minKey =>
      lowerValue_plain_of_fixed identityField modifier trivial

end

/-- Under any name, what is asked of a field is lowered as with identifiers in the plain
context. -/
theorem lower_field (identifying : context.options.objectIdIdentity = true) (name : String)
    (value : Value) :
    lower context name (ofValue value) =
      lower context.plain name (ofValue (Identity.field name value)) := by
  unfold Identity.field
  by_cases identity : name = identityField
  · rw [if_pos identity, identity]
    exact lower_identity identifying value
  · rw [if_neg identity]
    exact lower_congr (Coercion.coerce_plain_of_ne context identity) _

end Expression

/-! ## Levels -/

namespace Clause

variable {context : Context}

/-- Identifiers change no name of a level. -/
theorem keys_entrySources_entry (before : List String) (key : String) (value : Value) :
    Keyed.keys (entrySources before key (Identity.entry before key value)) =
      Keyed.keys (entrySources before key value) := by
  unfold Identity.entry entrySources
  cases ClauseKey.ofKey key with
  | logical operator => cases value <;> rfl
  | likeGroup =>
      cases value with
      | document group =>
          simp [Identity.group, Keyed.keys, Keyed.mapEntries]
      | _ => rfl
  | field => rfl

theorem lower_pattern (identifying : context.options.objectIdIdentity = true) (name : String)
    (value : Value) :
    Source.lower context name (.pattern value) =
      Source.lower context.plain name (.pattern (Identity.pattern name value)) := by
  unfold Identity.pattern
  by_cases identity : name = identityField
  · rw [if_pos identity, identity]
    exact Expression.lower_identity identifying (.document [("like", value)])
  · rw [if_neg identity]
    exact Expression.lower_congr (Coercion.coerce_plain_of_ne context identity) _

theorem lowerSources_group (identifying : context.options.objectIdIdentity = true)
    (group : Document) :
    lowerSources context (group.map fun entry => (entry.1, Source.pattern entry.2)) =
      lowerSources context.plain ((Keyed.mapEntries Identity.pattern group).map fun entry =>
        (entry.1, Source.pattern entry.2)) := by
  induction group with
  | nil => rfl
  | cons entry rest ih =>
      have here := lower_pattern identifying entry.1 entry.2
      simp only [Keyed.mapEntries, List.map_cons, lowerSources, here] at ih ⊢
      rw [ih]

/-- Whatever an entry writes is lowered as with identifiers in the plain context, if the
elements of a logical operator are. -/
theorem lowerSources_entry (identifying : context.options.objectIdIdentity = true)
    (before : List String) (key : String) {value : Value}
    (elements : ∀ items, value = .array items →
      lowerClauses context (readElements items).value =
        lowerClauses context.plain (readElements (Identity.elements items)).value) :
    lowerSources context (entrySources before key value) =
      lowerSources context.plain
        (entrySources before key (Identity.entry before key value)) := by
  unfold Identity.entry
  cases kind : ClauseKey.ofKey key with
  | logical operator =>
      cases value with
      | array items =>
          have documents := elements items rfl
          rw [Identity.logical, entrySources_of_logical kind, entrySources_of_logical kind]
          simp only [lowerSources, Source.lower, documents]
      | _ =>
          simp only [Identity.logical, entrySources, kind]
          rfl
  | likeGroup =>
      cases value with
      | document group =>
          rw [Identity.group, entrySources_of_likeGroup kind, entrySources_of_likeGroup kind]
          exact lowerSources_group identifying group
      | _ =>
          simp only [Identity.group, entrySources, kind]
          rfl
  | field =>
      have asked := Expression.lower_field identifying (nameAfter before key) value
      rw [entrySources_of_field kind, entrySources_of_field kind]
      simp only [lowerSources, Source.lower, asked]

mutual

/-- A level with its identifiers in place is written the same by the plain context. -/
theorem lowerSources_clause (identifying : context.options.objectIdIdentity = true)
    (before : List String) : ∀ fields : List (String × Value),
    lowerSources context (sources before fields) =
      lowerSources context.plain (sources before (Identity.clause before fields))
  | [] => rfl
  | (key, value) :: rest => by
      have elements : ∀ items, value = .array items →
          lowerClauses context (readElements items).value =
            lowerClauses context.plain (readElements (Identity.elements items)).value := by
        rintro items rfl
        exact lowerClauses_elements identifying items
      have here := lowerSources_entry identifying before key elements
      have later := lowerSources_clause identifying
        (before ++ Keyed.keys (entrySources before key value)) rest
      rw [Identity.clause_cons, sources, sources, keys_entrySources_entry, lowerSources_append,
        lowerSources_append, here, later]

theorem lowerClauses_elements (identifying : context.options.objectIdIdentity = true) :
    ∀ items : List Value, lowerClauses context (readElements items).value =
      lowerClauses context.plain (readElements (Identity.elements items)).value
  | [] => rfl
  | item :: rest => by
      have here := lower_element identifying item
      have later := lowerClauses_elements identifying rest
      have documents : lowerClauses context
            ((readElement item).value :: (readElements rest).value) =
          lowerClauses context.plain ((readElement (Identity.element item)).value ::
            (readElements (Identity.elements rest)).value) := by
        rw [lower, lower] at here
        rw [lowerClauses, lowerClauses, here, later]
      exact documents

theorem lower_element (identifying : context.options.objectIdIdentity = true) :
    ∀ item : Value, lower context (readElement item).value =
      lower context.plain (readElement (Identity.element item)).value
  | .document fields => by
      rw [Identity.element, readElement, readElement, lower_read, lower_read,
        lowerSources_clause identifying [] fields]
  | .string _ | .array _ | .double _ | .binary _ _ | .undefined | .objectId _ | .boolean _
  | .dateTime _ | .null | .regex _ | .dbPointer _ _ | .code _ | .symbol _
  | .codeWithScope _ _ | .int32 _ | .timestamp _ _ | .int64 _ | .decimal128 _
  | .maxKey | .minKey => rfl

end

end Clause

/-! ## Queries -/

namespace Remarks

mutual

/-- Identifiers change the shape of no part. -/
theorem shapes_clause (before : List String) : ∀ fields : List (String × Value),
    shapes (Identity.clause before fields) = shapes fields
  | [] => rfl
  | (key, value) :: rest => by
      have later := shapes_clause
        (before ++ Keyed.keys (Clause.entrySources before key value)) rest
      have logical := logicalShapes_logical key value
      rw [Identity.clause_cons, shapes, shapes, later]
      refine congrArg (· ++ shapes rest) ?_
      unfold Identity.entry
      cases ClauseKey.ofKey key with
      | logical operator => exact logical
      | likeGroup => cases value <;> rfl
      | field => rfl

theorem logicalShapes_logical (key : String) : ∀ value : Value,
    logicalShapes key (Identity.logical value) = logicalShapes key value
  | .array items => elementsShapes_elements items
  | .document _ | .string _ | .double _ | .binary _ _ | .undefined | .objectId _
  | .boolean _ | .dateTime _ | .null | .regex _ | .dbPointer _ _ | .code _ | .symbol _
  | .codeWithScope _ _ | .int32 _ | .timestamp _ _ | .int64 _ | .decimal128 _
  | .maxKey | .minKey => rfl

theorem elementsShapes_elements : ∀ items : List Value,
    elementsShapes (Identity.elements items) = elementsShapes items
  | [] => rfl
  | item :: rest => by
      rw [Identity.elements, elementsShapes, elementsShapes, elementShapes_element item,
        elementsShapes_elements rest]

theorem elementShapes_element : ∀ item : Value,
    elementShapes (Identity.element item) = elementShapes item
  | .document fields => shapes_clause [] fields
  | .string _ | .array _ | .double _ | .binary _ _ | .undefined | .objectId _ | .boolean _
  | .dateTime _ | .null | .regex _ | .dbPointer _ _ | .code _ | .symbol _
  | .codeWithScope _ _ | .int32 _ | .timestamp _ _ | .int64 _ | .decimal128 _
  | .maxKey | .minKey => rfl

end

end Remarks

section

variable {context : Context} (identifying : context.options.objectIdIdentity = true)

include identifying

/-- Conditions with their identifiers in place are written the same by the plain context. -/
theorem whereQuery_element (value : Value) :
    whereQuery context value = whereQuery context.plain (Identity.element value) := by
  cases value with
  | document fields =>
      have lowered := Clause.lower_element identifying (.document fields)
      have reported := Remarks.shapes_clause [] fields
      rw [← Clause.diagnostics_read, ← Clause.diagnostics_read] at reported
      rw [Identity.element, Clause.readElement, Clause.readElement] at lowered
      apply Reported.eq_of_parts
      · simp only [Identity.element, whereQuery, Reported.value_bind, lowered]
      · simp only [Identity.element, whereQuery, Reported.diagnostics_bind, lowered, reported]
  | _ => rfl

/-- A query with identifiers is the plain query of the criteria in which the identifiers
stand in place. -/
theorem query_criteria (criteria : Document) :
    query context criteria = query context.plain (Identity.criteria criteria) := by
  induction criteria with
  | nil => rfl
  | cons entry rest ih =>
      obtain ⟨key, value⟩ := entry
      have here : entryQuery context key value = entryQuery context.plain key
          (if key = whereKey then Identity.element value else value) := by
        unfold entryQuery
        by_cases isWhere : key = whereKey
        · rw [if_pos isWhere, if_pos isWhere, if_pos isWhere, whereQuery_element identifying]
        · rw [if_neg isWhere, if_neg isWhere, if_neg isWhere]
      have split : Identity.criteria ((key, value) :: rest) =
          (key, if key = whereKey then Identity.element value else value) ::
            Identity.criteria rest := rfl
      rw [split, query, query, here, ih]

end

end Criteria
