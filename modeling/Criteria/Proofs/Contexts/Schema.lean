import Criteria.Proofs.Contexts.Differing

/-!
# What a schema can change in a query

A schema is looked up for the strings that a `where` reads under the name of a field,
but for those that become identifiers. Of what it declares there, only the types that
convert strings count: a field that is a `string`, of an unknown type or not declared
at all has its strings kept.
-/

namespace Criteria

/-! ## Types that convert strings -/

/-- Whether strings under a type may become other values. -/
def FieldType.converts : FieldType → Bool
  | integer | float | date | datetime | boolean => true
  | string | other _ => false

/-- The declared type of a field, if it is one that converts strings. -/
def Schema.converting? (schema : Schema) (name : String) : Option FieldType :=
  (schema.type? name).filter FieldType.converts

theorem Schema.type?_of_converting {schema : Schema} {name : String} {type : FieldType}
    (declared : schema.converting? name = some type) : schema.type? name = some type :=
  (Option.filter_eq_some_iff.1 declared).1

namespace Coercion

/-- Without a type that converts, a string stays. -/
theorem typed_of_unconverting {schema : Schema} {field : String}
    (unconverting : schema.converting? field = none) (options : Options) (text : String) :
    typed ⟨schema, options⟩ field text = pure (.string text) := by
  unfold typed
  cases declared : schema.type? field with
  | none => rfl
  | some type =>
      have kept : type.converts = false := by
        simpa [Schema.converting?, declared] using unconverting
      cases type with
      | string | other _ => rfl
      | integer | float | date | datetime | boolean => cases kept

/-- Types that do not convert cannot be told apart by what becomes of a string. -/
theorem typed_congr {first second : Schema} {field : String}
    (agree : first.converting? field = second.converting? field) (options : Options)
    (text : String) :
    typed ⟨first, options⟩ field text = typed ⟨second, options⟩ field text := by
  cases declared : second.converting? field with
  | none =>
      rw [typed_of_unconverting declared, typed_of_unconverting (agree.trans declared)]
  | some type =>
      have firstType := Schema.type?_of_converting (agree.trans declared)
      have secondType := Schema.type?_of_converting declared
      unfold typed
      simp only [firstType, secondType]
      cases type <;> rfl

end Coercion

/-! ## Names that are looked up -/

/-- Whether a name is looked up in the schema for the conditions that a value states:
for a string under this name that does not become an identifier. -/
def Remarks.LooksUp (options : Options) (value : Value) (name : String) : Prop :=
  ∃ text, (name, text) ∈ elementTexts value ∧ ¬options.Identifies name text

theorem Coercion.coerce_string_congr {first second : Schema} {options : Options}
    {field text : String}
    (agree : ¬options.Identifies field text →
      first.converting? field = second.converting? field) :
    coerce ⟨first, options⟩ field (.string text) =
      coerce ⟨second, options⟩ field (.string text) := by
  by_cases identified : options.Identifies field text
  · rw [coerce_string_of_identifies ⟨first, options⟩ identified,
      coerce_string_of_identifies ⟨second, options⟩ identified]
  · rw [coerce_string_of_not_identifies ⟨first, options⟩ identified,
      coerce_string_of_not_identifies ⟨second, options⟩ identified]
    exact typed_congr (agree identified) options text

/-! ## Queries under two schemas -/

/-- Schemas that agree on the names looked up give one query. -/
theorem query_congr_of_agree {first second : Schema} {options : Options} {criteria : Document}
    (agree : ∀ value name, (whereKey, value) ∈ criteria → Remarks.LooksUp options value name →
      first.converting? name = second.converting? name) :
    query ⟨first, options⟩ criteria = query ⟨second, options⟩ criteria := by
  have alike : ∀ value, (whereKey, value) ∈ criteria →
      ∀ read ∈ Remarks.elementTexts value,
        ConvertedAlike (fun _ => False) ⟨first, options⟩ ⟨second, options⟩ read.1 read.2 := by
    intro value member read asked
    have same : Coercion.coerce ⟨first, options⟩ read.1 (.string read.2) =
        Coercion.coerce ⟨second, options⟩ read.1 (.string read.2) :=
      Coercion.coerce_string_congr fun unidentified =>
        agree value read.1 member ⟨read.2, asked, unidentified⟩
    rw [ConvertedAlike, same]
    exact .same _ _
  have identity : (Context.mk first options).options.objectIdIdentity =
      (Context.mk second options).options.objectIdIdentity := rfl
  obtain ⟨values, diagnostics⟩ := query_differing identity criteria alike
  exact Reported.eq_of_parts (values.eq_of_none fun _ => id) diagnostics

/-- Schemas that agree, on every name that is looked up, in the type that converts its
strings give the same query with the same diagnostics. Where no string is read under
the name of a field, any two schemas do. -/
theorem query_schema (options : Options) (criteria : Document) :
    (∀ first second : Schema,
      (∀ value name, (whereKey, value) ∈ criteria → Remarks.LooksUp options value name →
        first.converting? name = second.converting? name) →
      query ⟨first, options⟩ criteria = query ⟨second, options⟩ criteria) ∧
    ((∀ value, (whereKey, value) ∈ criteria → Remarks.elementTexts value = []) →
      ∀ first second : Schema,
        query ⟨first, options⟩ criteria = query ⟨second, options⟩ criteria) := by
  constructor
  · intro first second agree
    exact query_congr_of_agree agree
  · intro textless first second
    refine query_congr_of_agree fun value name member looked => ?_
    obtain ⟨text, asked, -⟩ := looked
    rw [textless value member] at asked
    exact absurd asked List.not_mem_nil

/-- Two schemas that agree on one converting type only: what else they declare is
looked up for no string, or converts none. -/
theorem query_schema_of_unlike_schemas :
    let options : Options := { objectIdIdentity := true }
    let first := Schema.ofList
      [("_id", .integer), ("age", .integer), ("city", .string), ("id", .float)]
    let second := Schema.ofList [("_id", .date), ("age", .integer), ("city", .other "text")]
    let unread : Document := [("contains", .string "6"), ("$ne", .string "7")]
    let conditions : Value := .document
      [("id", .string "0123456789abcdef01234567"),
        ("or", .array [.document [("age", .document (("gt", .string "x") :: unread))]]),
        ("city", .string "y"), ("like", .document [("id", .string "z")])]
    let textless : Value := .document [("age", .document unread)]
    Remarks.elementTexts conditions =
        [("_id", "0123456789abcdef01234567"), ("age", "x"), ("city", "y")] ∧
      query ⟨first, options⟩ [(whereKey, conditions)] =
        query ⟨second, options⟩ [(whereKey, conditions)] ∧
      Remarks.elementTexts textless = [] ∧
      query ⟨first, options⟩ [(whereKey, textless)] =
        query ⟨Schema.empty, options⟩ [(whereKey, textless)] := by
  intro options first second unread conditions textless
  have texts : Remarks.elementTexts conditions =
      [("_id", "0123456789abcdef01234567"), ("age", "x"), ("city", "y")] := rfl
  have noTexts : Remarks.elementTexts textless = [] := rfl
  refine ⟨texts, ?_, noTexts, ?_⟩
  · refine (query_schema options _).1 first second ?_
    rintro value name member ⟨text, asked, unidentified⟩
    cases List.mem_singleton.1 member
    rw [texts] at asked
    simp only [List.mem_cons, Prod.mk.injEq, List.not_mem_nil, or_false] at asked
    rcases asked with ⟨rfl, rfl⟩ | ⟨rfl, rfl⟩ | ⟨rfl, rfl⟩
    · exact absurd ⟨rfl, rfl, rfl⟩ unidentified
    · rfl
    · rfl
  · refine (query_schema options _).2 ?_ first Schema.empty
    intro value member
    cases List.mem_singleton.1 member
    exact noTexts

end Criteria
