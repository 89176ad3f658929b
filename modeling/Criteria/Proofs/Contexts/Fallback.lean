import Criteria.Proofs.Contexts.Differing

/-!
# What the numeric fallback can change in a query

The fallback decides what stands for a string that its numeric type cannot read, and
nothing else. So the query that keeps such texts has the diagnostics of the one that
does not, and differs from it only where it holds a text that these diagnostics name.
-/

namespace Criteria

def Context.withFallback (context : Context) (fallback : NumericFallback) : Context :=
  ⟨context.schema, { context.options with numericFallback := fallback }⟩

/-- Whether some diagnostics report a text under a numeric type. -/
def ReportsNumber (diagnostics : List Diagnostic) (text : String) : Prop :=
  ∃ field type, .unparsableNumber field type text ∈ diagnostics

namespace Coercion

variable {context : Context} {field text : String} {kept : String → Prop}

/-- The fallbacks differ at most where no number was read, which is reported. -/
theorem numberOr_fallback {type : FieldType} {read : Option Value}
    (reports : ReportsNumber
      (numberOr (context.withFallback .nan) field type text read).diagnostics text →
        kept text) :
    DifferingReports kept (numberOr (context.withFallback .nan) field type text read)
      (numberOr (context.withFallback .keepText) field type text read) := by
  cases read with
  | some value => exact .same kept _
  | none =>
      have isKept : kept text := reports ⟨field, type, List.mem_cons_self⟩
      exact ⟨.replaced isKept, rfl⟩

/-- Only the numeric types look at the fallback. -/
theorem typed_fallback
    (reports : ReportsNumber
      (typed (context.withFallback .nan) field text).diagnostics text → kept text) :
    DifferingReports kept (typed (context.withFallback .nan) field text)
      (typed (context.withFallback .keepText) field text) := by
  unfold typed at reports ⊢
  have schemas (fallback : NumericFallback) :
      (context.withFallback fallback).schema = context.schema := rfl
  rw [schemas] at reports
  rw [schemas, schemas]
  cases declared : context.schema.type? field with
  | none => exact .same kept _
  | some type =>
      rw [declared] at reports
      cases type with
      | integer => exact numberOr_fallback reports
      | float => exact numberOr_fallback reports
      | string | date | datetime | boolean | other _ => exact .same kept _

theorem coerce_fallback
    (reports : ReportsNumber
      (coerce (context.withFallback .nan) field (.string text)).diagnostics text →
        kept text) :
    ConvertedAlike kept (context.withFallback .nan) (context.withFallback .keepText) field
      text := by
  by_cases identified : context.options.Identifies field text
  · have atNan := coerce_string_of_identifies (context.withFallback .nan) identified
    have atKeep := coerce_string_of_identifies (context.withFallback .keepText) identified
    rw [ConvertedAlike, atNan, atKeep]
    exact .same kept _
  · have atNan := coerce_string_of_not_identifies (context.withFallback .nan) identified
    have atKeep := coerce_string_of_not_identifies (context.withFallback .keepText) identified
    rw [atNan] at reports
    rw [ConvertedAlike, atNan, atKeep]
    exact typed_fallback reports

end Coercion

/-! ## Queries -/

/-- What converting a string of a `where` reports, the query reports. -/
theorem mem_diagnostics_query {context : Context} {criteria : Document} {value : Value}
    (member : (whereKey, value) ∈ criteria) {read : String × String}
    (asked : read ∈ Remarks.elementTexts value) {diagnostic : Diagnostic}
    (reported : diagnostic ∈
      (Coercion.coerce context read.1 (.string read.2)).diagnostics) :
    diagnostic ∈ (query context criteria).diagnostics := by
  have ofWhere : diagnostic ∈ (entryQuery context whereKey value).diagnostics := by
    rw [diagnostics_entryQuery, Remarks.ofEntry, if_pos rfl]
    rw [Coercion.diagnostics_coerce_string] at reported
    cases value with
    | document fields =>
        exact List.mem_append_right _ (List.mem_flatMap.2 ⟨read, asked, reported⟩)
    | _ => exact absurd asked List.not_mem_nil
  induction criteria with
  | nil => cases member
  | cons entry rest ih =>
      rw [query, Reported.diagnostics_bind, Reported.diagnostics_bind]
      rcases List.mem_cons.1 member with rfl | later
      · exact List.mem_append_left _ ofWhere
      · exact List.mem_append_right _ (List.mem_append_left _ (ih later))

/-- The query that keeps the texts without a number has the diagnostics of the one that
does not. The two differ only in places where the one holds the double that is no
number and the other a text that is reported, and not at all if none is. -/
theorem query_fallback (context : Context) (criteria : Document) :
    let nan := query (context.withFallback .nan) criteria
    let keepText := query (context.withFallback .keepText) criteria
    nan.diagnostics = keepText.diagnostics ∧
      DifferingFields (ReportsNumber nan.diagnostics) nan.value keepText.value ∧
      ((∀ text, ¬ReportsNumber nan.diagnostics text) → nan.value = keepText.value) := by
  intro nan keepText
  have alike : ∀ value, (whereKey, value) ∈ criteria →
      ∀ read ∈ Remarks.elementTexts value,
        ConvertedAlike (ReportsNumber nan.diagnostics) (context.withFallback .nan)
          (context.withFallback .keepText) read.1 read.2 := by
    intro value member read asked
    refine Coercion.coerce_fallback ?_
    rintro ⟨field, type, reported⟩
    exact ⟨field, type, mem_diagnostics_query member asked reported⟩
  have identity : (context.withFallback .nan).options.objectIdIdentity =
      (context.withFallback .keepText).options.objectIdIdentity := rfl
  obtain ⟨values, diagnostics⟩ := query_differing identity criteria alike
  exact ⟨diagnostics, values, fun none => values.eq_of_none none⟩

/-- A negation and a bare value of which no number is read, beside an equal text that is
kept in both queries, and criteria of which nothing is reported. -/
theorem query_fallback_of_kept_texts :
    let context : Context := ⟨Schema.ofList [("age", .integer), ("size", .float)], {}⟩
    let criteria : Document :=
      [(whereKey, .document
        [("age", .document [("not", .string "x"), ("$ne", .string "x")]),
          ("size", .string "y")])]
    let readable : Document := [(whereKey, .document [("age", .string "5")])]
    let nan := query (context.withFallback .nan) criteria
    let keepText := query (context.withFallback .keepText) criteria
    (nan.diagnostics =
          [.unparsableNumber "age" .integer "x", .unparsableNumber "size" .float "y"] ∧
        nan.diagnostics = keepText.diagnostics ∧
        DifferingFields (ReportsNumber nan.diagnostics) nan.value keepText.value) ∧
      (query (context.withFallback .nan) readable).diagnostics = [] ∧
      (query (context.withFallback .nan) readable).value =
        (query (context.withFallback .keepText) readable).value := by
  intro context criteria readable nan keepText
  have none : (query (context.withFallback .nan) readable).diagnostics = [] := rfl
  obtain ⟨diagnostics, values, -⟩ := query_fallback context criteria
  obtain ⟨-, -, same⟩ := query_fallback context readable
  refine ⟨⟨rfl, diagnostics, values⟩, none, same ?_⟩
  rintro text ⟨field, type, reported⟩
  rw [none] at reported
  exact absurd reported List.not_mem_nil

end Criteria
