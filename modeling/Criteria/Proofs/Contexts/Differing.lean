import Criteria.Proofs.Grammar
import Criteria.Proofs.Remarks

/-!
# One query under two contexts

The schema and the options come into a query only where a string is converted under
the name of its field. So if two contexts treat identities alike, and if they convert
each of these strings to the same value, or the one to no number where the other keeps
the text, then the two queries differ at most where such a text is kept. In particular
they agree on every name and operator, on what is written as a bare regular
expression, and on which of several conditions under one name is the last.
-/

namespace Criteria

/-! ## Values that differ in kept texts -/

mutual

/-- Values that are the same but for some places, at which the first has the double
that is no number and the second one of the kept texts. -/
inductive Differing (kept : String → Prop) : Value → Value → Prop
  | same (value : Value) : Differing kept value value
  | replaced {text : String} (isKept : kept text) :
    Differing kept (.double .nan) (.string text)
  | document {first second : Document} (fields : DifferingFields kept first second) :
    Differing kept (.document first) (.document second)
  | array {first second : List Value} (items : DifferingItems kept first second) :
    Differing kept (.array first) (.array second)

inductive DifferingFields (kept : String → Prop) : Document → Document → Prop
  | nil : DifferingFields kept [] []
  | cons {key : String} {first second : Value} {firstRest secondRest : Document}
      (here : Differing kept first second)
      (later : DifferingFields kept firstRest secondRest) :
      DifferingFields kept ((key, first) :: firstRest) ((key, second) :: secondRest)

inductive DifferingItems (kept : String → Prop) : List Value → List Value → Prop
  | nil : DifferingItems kept [] []
  | cons {first second : Value} {firstRest secondRest : List Value}
      (here : Differing kept first second)
      (later : DifferingItems kept firstRest secondRest) :
      DifferingItems kept (first :: firstRest) (second :: secondRest)

end

section

variable {kept : String → Prop}

mutual

/-- Without kept texts there is nothing to differ in. -/
theorem Differing.eq_of_none (none : ∀ text, ¬kept text) : ∀ {first second : Value},
    Differing kept first second → first = second
  | _, _, .same _ => rfl
  | _, _, .replaced isKept => absurd isKept (none _)
  | _, _, .document fields => congrArg Value.document (fields.eq_of_none none)
  | _, _, .array items => congrArg Value.array (items.eq_of_none none)

theorem DifferingFields.eq_of_none (none : ∀ text, ¬kept text) : ∀ {first second : Document},
    DifferingFields kept first second → first = second
  | _, _, .nil => rfl
  | _, _, .cons here later => by rw [here.eq_of_none none, later.eq_of_none none]

theorem DifferingItems.eq_of_none (none : ∀ text, ¬kept text) : ∀ {first second : List Value},
    DifferingItems kept first second → first = second
  | _, _, .nil => rfl
  | _, _, .cons here later => by rw [here.eq_of_none none, later.eq_of_none none]

end

theorem DifferingFields.mapEntries {α : Type} {firstChange secondChange : String → α → Value}
    {entries : Keyed α}
    (differing : ∀ entry ∈ entries,
      Differing kept (firstChange entry.1 entry.2) (secondChange entry.1 entry.2)) :
    DifferingFields kept (entries.mapEntries firstChange) (entries.mapEntries secondChange) := by
  induction entries with
  | nil => exact .nil
  | cons entry rest ih =>
      have here := differing entry List.mem_cons_self
      have later := ih fun other member => differing other (List.mem_cons_of_mem _ member)
      exact .cons here later

/-- Neither the double that is no number nor a text is a regular expression, so two
documents are unwrapped together or not at all. -/
theorem differing_unwrapRegex {first second : Document}
    (fields : DifferingFields kept first second) :
    Differing kept (Expression.unwrapRegex first) (Expression.unwrapRegex second) := by
  rcases Expression.unwrapRegex_eq_or first with ⟨r, rfl, regex⟩ | firstWhole
  · obtain ⟨⟩ | ⟨here, later⟩ := fields
    cases here
    cases later
    exact .same _
  · rcases Expression.unwrapRegex_eq_or second with ⟨r, rfl, regex⟩ | secondWhole
    · obtain ⟨⟩ | ⟨here, later⟩ := fields
      cases here
      cases later
      exact .same _
    · rw [firstWhole, secondWhole]
      exact .document fields

end

/-! ## Strings that two contexts convert alike -/

/-- Values that differ at most in kept texts, with the same diagnostics. -/
structure DifferingReports (kept : String → Prop) (first second : Reported Value) : Prop where
  value : Differing kept first.value second.value
  diagnostics : first.diagnostics = second.diagnostics

theorem DifferingReports.same (kept : String → Prop) (reported : Reported Value) :
    DifferingReports kept reported reported :=
  ⟨.same reported.value, rfl⟩

/-- Whether two contexts treat identities alike. -/
abbrev IdentifyAlike (first second : Context) : Prop :=
  first.options.objectIdIdentity = second.options.objectIdIdentity

/-- Whether two contexts convert a string under a field alike. -/
abbrev ConvertedAlike (kept : String → Prop) (first second : Context)
    (field text : String) : Prop :=
  DifferingReports kept (Coercion.coerce first field (.string text))
    (Coercion.coerce second field (.string text))

section

variable {kept : String → Prop} {first second : Context}

namespace Expression

/-- A text match aside, what is written for an operand is its coercion. -/
theorem operand_lowerValue (context : Context) (field : String) {modifier : Modifier}
    (notText : ∀ kind, modifier ≠ .text kind) (value : Value) :
    (lowerValue context field modifier value).value.2 =
      (Coercion.coerceOperand context field modifier value).value := by
  cases modifier with
  | not =>
      have notVerbatim : Modifier.not ≠ .verbatim "$ne" := by decide
      rw [value_lowerValue_not, Coercion.coerceOperand_of_ne notVerbatim]
  | text kind => exact absurd rfl (notText kind)
  | comparison _ => rfl
  | verbatim _ => rfl

/-- A string operand differs only if the modifier reads it under its field. -/
theorem lowerValue_string_differing {field : String} {modifier : Modifier} {text : String}
    (alike : Remarks.readsOperand modifier = true →
      ConvertedAlike kept first second field text) :
    Differing kept (lowerValue first field modifier (.string text)).value.2
      (lowerValue second field modifier (.string text)).value.2 := by
  by_cases isText : ∃ kind, modifier = .text kind
  · obtain ⟨kind, rfl⟩ := isText
    exact .same _
  · have notText : ∀ kind, modifier ≠ .text kind := fun kind same => isText ⟨kind, same⟩
    rw [operand_lowerValue first field notText, operand_lowerValue second field notText]
    by_cases inequality : modifier = .verbatim "$ne"
    · subst inequality
      exact .same _
    · have reads : Remarks.readsOperand modifier = true := by
        cases modifier with
        | text kind => exact absurd rfl (notText kind)
        | verbatim key => simpa [Remarks.readsOperand] using inequality
        | comparison _ => rfl
        | not => rfl
      rw [Coercion.coerceOperand_of_ne inequality, Coercion.coerceOperand_of_ne inequality]
      exact (alike reads).value

/-- A modifier map differs where the values of its last entries do. -/
theorem lower_modifiers_differing {field : String} {fields : Document}
    (entries : ∀ entry ∈ fields, Differing kept (lowerField first field entry).value.2
      (lowerField second field entry).value.2) :
    Differing kept (lower first field (.modifiers (Operand.ofFields fields))).value
      (lower second field (.modifiers (Operand.ofFields fields))).value := by
  rw [value_lower_modifiers, value_lower_modifiers, ofList_emitted_ofFields,
    ofList_emitted_ofFields]
  refine differing_unwrapRegex (.mapEntries fun last member => ?_)
  obtain ⟨entry, original, rfl⟩ := List.mem_map.1 (Keyed.mem_of_mem_ofList member)
  exact entries entry original

end Expression

/-! ## Expressions -/

section

variable (identity : IdentifyAlike first second)

include identity

/-- Values other than strings are converted alike. -/
theorem Coercion.coerce_congr_of_ne_string {value : Value} (notString : value.isString = false)
    (field : String) : coerce first field value = coerce second field value := by
  rcases string_or_array_or_fixed value with ⟨text, rfl⟩ | ⟨items, rfl⟩ | fixed
  · cases notString
  · have items : identifiedItems first field items = identifiedItems second field items := by
      unfold identifiedItems
      rw [identity]
    rw [coerce_array, coerce_array, items]
  · rw [coerce_of_fixed first field fixed, coerce_of_fixed second field fixed]

theorem Coercion.coerce_differing_of_ne_string {value : Value}
    (notString : value.isString = false) (field : String) :
    Differing kept (coerce first field value).value (coerce second field value).value := by
  rw [coerce_congr_of_ne_string identity notString]
  exact .same _

theorem Expression.lowerValue_congr_of_ne_string {value : Value}
    (notString : value.isString = false) (field : String) (modifier : Modifier) :
    lowerValue first field modifier value = lowerValue second field modifier value := by
  have coerced : Coercion.coerceOperand first field modifier value =
      Coercion.coerceOperand second field modifier value := by
    unfold Coercion.coerceOperand
    split
    · rfl
    · exact Coercion.coerce_congr_of_ne_string identity notString field
  cases modifier <;> simp only [lowerValue, coerced]

theorem Expression.lowerValue_differing_of_ne_string {value : Value}
    (notString : value.isString = false) (field : String) (modifier : Modifier) :
    Differing kept (lowerValue first field modifier value).value.2
      (lowerValue second field modifier value).value.2 := by
  rw [lowerValue_congr_of_ne_string identity notString]
  exact .same _

end

namespace Expression

mutual

/-- What is asked of a field is written differently only in kept texts. -/
theorem lower_differing (identity : IdentifyAlike first second) (field : String) :
    ∀ value : Value,
    (∀ text ∈ Remarks.askedTexts value, ConvertedAlike kept first second field text) →
    Differing kept (lower first field (ofValue value)).value
      (lower second field (ofValue value)).value
  | .document fields, alike =>
      lower_modifiers_differing (lowerField_differing identity field fields alike)
  | .string text, alike => (alike text List.mem_cons_self).value
  | .array items, _ => by
      have notString : (Value.array items).isString = false := rfl
      rw [ofValue, lower, lower, Coercion.coerce_congr_of_ne_string identity notString field]
      exact .same _
  | .double _, _ | .binary _ _, _ | .undefined, _ | .objectId _, _ | .boolean _, _
  | .dateTime _, _ | .null, _ | .regex _, _ | .dbPointer _ _, _ | .code _, _ | .symbol _, _
  | .codeWithScope _ _, _ | .int32 _, _ | .timestamp _ _, _ | .int64 _, _
  | .decimal128 _, _ | .maxKey, _ | .minKey, _ =>
      Coercion.coerce_differing_of_ne_string identity rfl field

theorem lowerField_differing (identity : IdentifyAlike first second) (field : String) :
    ∀ fields : List (String × Value),
    (∀ text ∈ Remarks.modifierTexts fields, ConvertedAlike kept first second field text) →
    ∀ entry ∈ fields, Differing kept (lowerField first field entry).value.2
      (lowerField second field entry).value.2
  | [], _, _, member => absurd member List.not_mem_nil
  | (key, value) :: rest, alike, entry, member => by
      have here := lowerOperand_differing identity field (Modifier.resolve key value) value
        fun text asked => alike text (List.mem_append_left _ asked)
      have later := lowerField_differing identity field rest fun text asked =>
        alike text (List.mem_append_right _ asked)
      rcases List.mem_cons.1 member with rfl | behind
      · exact here
      · exact later entry behind

theorem lowerOperand_differing (identity : IdentifyAlike first second) (field : String)
    (modifier : Modifier) : ∀ value : Value,
    (∀ text ∈ Remarks.operandTexts modifier value,
      ConvertedAlike kept first second field text) →
    Differing kept
      (lowerOperand first field modifier (Operand.ofValue modifier value)).value.2
      (lowerOperand second field modifier (Operand.ofValue modifier value)).value.2
  | .document fields, alike => by
      by_cases negated : modifier = .not
      · rw [Remarks.operandTexts, if_pos negated] at alike
        have entries := lowerField_differing identity field fields alike
        rw [Operand.ofValue, if_pos negated]
        exact lower_modifiers_differing entries
      · rw [Operand.ofValue, if_neg negated]
        exact lowerValue_differing_of_ne_string identity rfl field modifier
  | .string text, alike => by
      refine lowerValue_string_differing fun reads => alike text ?_
      rw [Remarks.operandTexts, if_pos reads]
      exact List.mem_cons_self
  | .array _, _ | .double _, _ | .binary _ _, _ | .undefined, _ | .objectId _, _
  | .boolean _, _ | .dateTime _, _ | .null, _ | .regex _, _ | .dbPointer _ _, _ | .code _, _
  | .symbol _, _ | .codeWithScope _ _, _ | .int32 _, _ | .timestamp _ _, _ | .int64 _, _
  | .decimal128 _, _ | .maxKey, _ | .minKey, _ =>
      lowerValue_differing_of_ne_string identity rfl field modifier

end

end Expression

/-! ## Levels -/

namespace Clause

theorem lower_pattern_differing (identity : IdentifyAlike first second) (name : String)
    (value : Value) :
    Differing kept (Source.lower first name (.pattern value)).value
      (Source.lower second name (.pattern value)).value := by
  have noText : Remarks.askedTexts (.document [("like", value)]) = [] := by
    cases value <;> rfl
  refine Expression.lower_differing identity name _ fun text asked => ?_
  rw [noText] at asked
  exact absurd asked List.not_mem_nil

mutual

theorem lower_sources_differing (identity : IdentifyAlike first second)
    (before : List String) : ∀ fields : List (String × Value),
    (∀ read ∈ Remarks.texts before fields, ConvertedAlike kept first second read.1 read.2) →
    ∀ entry ∈ sources before fields, Differing kept (entry.2.lower first entry.1).value
      (entry.2.lower second entry.1).value
  | [], _, _, member => absurd member List.not_mem_nil
  | (key, value) :: rest, alike, entry, member => by
      have later := lower_sources_differing identity
        (before ++ Keyed.keys (entrySources before key value)) rest fun read asked =>
          alike read (List.mem_append_right _ asked)
      rcases List.mem_append.1 member with here | behind
      · obtain ⟨name, source⟩ := entry
        have hereAlike := fun read asked => alike read (List.mem_append_left _ asked)
        rcases mem_entrySources here with
          ⟨operator, items, isLogical, rfl, rfl, rfl⟩ | ⟨pattern, -, -, rfl⟩ |
            ⟨isField, rfl, rfl⟩
        · rw [isLogical] at hereAlike
          have elements := lower_elements_differing identity items hereAlike
          rw [value_lower_elements, value_lower_elements]
          exact .array elements
        · exact lower_pattern_differing identity name pattern
        · rw [isField] at hereAlike
          refine Expression.lower_differing identity _ value fun text asked => ?_
          exact hereAlike _ (List.mem_map_of_mem asked)
      · exact later entry behind

theorem lower_elements_differing (identity : IdentifyAlike first second) :
    ∀ items : List Value,
    (∀ read ∈ Remarks.elementsTexts items, ConvertedAlike kept first second read.1 read.2) →
    DifferingItems kept (items.map fun item => .document (whereQuery first item).value)
      (items.map fun item => .document (whereQuery second item).value)
  | [], _ => .nil
  | item :: rest, alike => by
      have here := whereQuery_differing identity item fun read asked =>
        alike read (List.mem_append_left _ asked)
      have later := lower_elements_differing identity rest fun read asked =>
        alike read (List.mem_append_right _ asked)
      exact .cons (.document here) later

/-- Conditions are written differently only in kept texts. -/
theorem whereQuery_differing (identity : IdentifyAlike first second) :
    ∀ value : Value,
    (∀ read ∈ Remarks.elementTexts value, ConvertedAlike kept first second read.1 read.2) →
    DifferingFields kept (whereQuery first value).value (whereQuery second value).value
  | .document fields, alike => by
      have written := lower_sources_differing identity [] fields alike
      rw [value_whereQuery_eq, value_whereQuery_eq]
      refine .mapEntries fun entry member => ?_
      exact written entry (Keyed.mem_of_mem_ofList member)
  | .string _, _ | .array _, _ | .double _, _ | .binary _ _, _ | .undefined, _
  | .objectId _, _ | .boolean _, _ | .dateTime _, _ | .null, _ | .regex _, _
  | .dbPointer _ _, _ | .code _, _ | .symbol _, _ | .codeWithScope _ _, _ | .int32 _, _
  | .timestamp _ _, _ | .int64 _, _ | .decimal128 _, _ | .maxKey, _ | .minKey, _ => .nil

end

end Clause

/-! ## Queries -/

/-- Remarks do not tell contexts apart that convert every string alike. -/
theorem diagnostics_whereQuery_congr (value : Value)
    (alike : ∀ read ∈ Remarks.elementTexts value,
      ConvertedAlike kept first second read.1 read.2) :
    (whereQuery first value).diagnostics = (whereQuery second value).diagnostics := by
  have remarks : ∀ read ∈ Remarks.elementTexts value,
      Remarks.ofText first read.1 read.2 = Remarks.ofText second read.1 read.2 := by
    intro read asked
    rw [← Coercion.diagnostics_coerce_string, ← Coercion.diagnostics_coerce_string]
    exact (alike read asked).diagnostics
  rw [diagnostics_whereQuery, diagnostics_whereQuery]
  cases value with
  | document fields =>
      have texts := congrArg List.flatten (List.map_congr_left remarks)
      exact congrArg (Remarks.shapes fields ++ ·) texts
  | _ => rfl

theorem entryQuery_differing (identity : IdentifyAlike first second) (key : String)
    (value : Value)
    (alike : key = whereKey → ∀ read ∈ Remarks.elementTexts value,
      ConvertedAlike kept first second read.1 read.2) :
    DifferingReports kept (entryQuery first key value) (entryQuery second key value) := by
  unfold entryQuery
  by_cases isWhere : key = whereKey
  · have written := Clause.whereQuery_differing identity value (alike isWhere)
    have reported := diagnostics_whereQuery_congr value (alike isWhere)
    rw [if_pos isWhere, if_pos isWhere]
    refine ⟨.document written, ?_⟩
    rw [Reported.diagnostics_map, Reported.diagnostics_map, reported]
  · rw [if_neg isWhere, if_neg isWhere]
    exact .same kept _

/-- Two contexts that treat identities alike, and convert alike every string that a
`where` reads under the name of a field, give queries that differ at most in kept
texts, with the same diagnostics. -/
theorem query_differing (identity : IdentifyAlike first second) (criteria : Document)
    (alike : ∀ value, (whereKey, value) ∈ criteria →
      ∀ read ∈ Remarks.elementTexts value, ConvertedAlike kept first second read.1 read.2) :
    DifferingFields kept (query first criteria).value (query second criteria).value ∧
      (query first criteria).diagnostics = (query second criteria).diagnostics := by
  induction criteria with
  | nil => exact ⟨.nil, rfl⟩
  | cons entry rest ih =>
      obtain ⟨key, value⟩ := entry
      have hereAlike : key = whereKey → ∀ read ∈ Remarks.elementTexts value,
          ConvertedAlike kept first second read.1 read.2 := by
        rintro rfl
        exact alike value List.mem_cons_self
      obtain ⟨here, hereDiagnostics⟩ := entryQuery_differing identity key value hereAlike
      obtain ⟨later, laterDiagnostics⟩ := ih fun other member =>
        alike other (List.mem_cons_of_mem _ member)
      constructor
      · exact .cons here later
      · rw [query, query, Reported.diagnostics_bind, Reported.diagnostics_bind,
          Reported.diagnostics_bind, Reported.diagnostics_bind, hereDiagnostics,
          laterDiagnostics]
        rfl

end

end Criteria
