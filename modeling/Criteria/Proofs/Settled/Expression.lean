import Criteria.Proofs.Clause.Emission
import Criteria.Proofs.Clause.Spelling

/-!
# Lowered expressions are settled

A lowered expression, read as the criteria of its field and lowered again, is
itself. Every key that lowering writes is one that reading takes verbatim, or a
text match whose operand still has no text, and every value that stands under it
has been coerced before.
-/

namespace Criteria

namespace Expression

/-! ## Operators -/

/-- An operator that is written again as it stands. -/
def SettledOperator (context : Context) (field : String) (entry : String × Value) : Prop :=
  (lowerOperand context field (Modifier.resolve entry.1 entry.2)
    (Operand.ofValue (Modifier.resolve entry.1 entry.2) entry.2)).value = entry

theorem settledOperator_of_verbatim {context : Context} {field key : String} {value : Value}
    (verbatim : Modifier.resolve key value = .verbatim key)
    (kept : (Coercion.coerceOperand context field (.verbatim key) value).value = value) :
    SettledOperator context field (key, value) := by
  have operand : Operand.ofValue (.verbatim key) value = .value value :=
    Operand.ofValue_of_ne Modifier.noConfusion value
  simp only [SettledOperator, verbatim, operand, lowerOperand, lowerValue,
    Reported.value_bind, Reported.value_pure, kept, Modifier.key]

theorem settledOperator_of_unspelled {context : Context} {field key : String} {value : Value}
    (unspelled : Modifier.ofLowercase? (Text.lowercase key) = none)
    (kept : (Coercion.coerceOperand context field (.verbatim key) value).value = value) :
    SettledOperator context field (key, value) :=
  settledOperator_of_verbatim (Modifier.resolve_of_unspelled unspelled value) kept

/-- A negated document is settled as the document is. -/
theorem settledOperator_negated (context : Context) (field : String) (fields : Document) :
    SettledOperator context field ("$not", unwrapRegex fields) := by
  have notVerbatim : Modifier.verbatim "$not" ≠ .verbatim "$ne" := by decide
  have fixed : Coercion.Fixed (unwrapRegex fields) := by
    rcases unwrapRegex_eq_or fields with ⟨r, -, regex⟩ | document
    · rw [regex]
      trivial
    · rw [document]
      trivial
  refine settledOperator_of_unspelled (by decide) ?_
  rw [Coercion.coerceOperand_of_ne notVerbatim, Coercion.coerce_of_fixed context field fixed,
    Reported.value_pure]

theorem settledOperator_not (context : Context) (field : String) (value : Value) :
    SettledOperator context field (lowerValue context field .not value).value := by
  rw [value_lowerValue_not]
  rcases exclusionKey_eq_or value with exclusion | inequality
  · have notVerbatim : Modifier.verbatim "$nin" ≠ .verbatim "$ne" := by decide
    rw [exclusion]
    refine settledOperator_of_unspelled (by decide) ?_
    rw [Coercion.coerceOperand_of_ne notVerbatim, Coercion.coerce_coerce]
  · rw [inequality]
    exact settledOperator_of_unspelled (by decide) rfl

theorem settledOperator_comparison (context : Context) (field : String)
    (comparison : Comparison) (value : Value) :
    SettledOperator context field
      (lowerValue context field (.comparison comparison) value).value := by
  have notVerbatim : Modifier.comparison comparison ≠ .verbatim "$ne" := Modifier.noConfusion
  have otherKey : Modifier.verbatim (Modifier.comparison comparison).key ≠ .verbatim "$ne" := by
    cases comparison <;> decide
  refine settledOperator_of_verbatim (Modifier.resolve_comparison_key comparison _) ?_
  rw [Coercion.coerceOperand_of_ne notVerbatim, Coercion.coerceOperand_of_ne otherKey,
    Coercion.coerce_coerce]

/-- A text match is written as a pattern, or it keeps its key before an operand
that has no text. -/
theorem settledOperator_text (context : Context) (field : String) {kind : TextMatch}
    {value : Value} (isString : kind = .contains → value.isString = true) :
    SettledOperator context field (lowerValue context field (.text kind) value).value := by
  cases text : Pattern.operandText? value with
  | some shown =>
      have notVerbatim : Modifier.verbatim regexKey ≠ .verbatim "$ne" := by decide
      simp only [lowerValue, text, Reported.value_pure]
      refine settledOperator_of_unspelled (by decide) ?_
      rw [Coercion.coerceOperand_of_ne notVerbatim, Coercion.coerce_regex, Reported.value_pure]
  | none =>
      have notVerbatim : Modifier.text kind ≠ .verbatim "$ne" := Modifier.noConfusion
      have stillNone := Coercion.operandText?_coerce text context field
      have resolved : Modifier.resolve kind.key (Coercion.coerce context field value).value =
          .text kind := by
        cases kind with
        | contains =>
            cases value with
            | string shown => cases text
            | _ => exact absurd (isString rfl) Bool.noConfusion
        | _ => rfl
      have notNegated : Modifier.text kind ≠ .not := Modifier.noConfusion
      have operand := Operand.ofValue_of_ne notNegated (Coercion.coerce context field value).value
      simp only [lowerValue, text, Reported.value_bind, Reported.value_pure, Modifier.key,
        SettledOperator, Coercion.coerceOperand_of_ne notVerbatim, resolved, operand,
        lowerOperand, stillNone, Coercion.coerce_coerce]

theorem settledOperator_verbatim (context : Context) (field : String) {key other : String}
    {value : Value} (verbatim : Modifier.resolve key value = .verbatim other) :
    SettledOperator context field (lowerValue context field (.verbatim other) value).value := by
  have noString : value.isString = false →
      (Coercion.coerceOperand context field (.verbatim other) value).value.isString = false :=
    fun notString => Coercion.isString_coerceOperand notString context field _
  obtain ⟨rfl, resolved⟩ := Modifier.resolve_verbatim_congr verbatim noString
  exact settledOperator_of_verbatim resolved (Coercion.coerceOperand_coerceOperand _ _ _ _)

/-- Whatever a modifier writes is written again as it stands. -/
theorem settledOperator_lowerOperand (context : Context) (field key : String)
    (value : Value) :
    SettledOperator context field
      (lowerOperand context field (Modifier.resolve key value)
        (Operand.ofValue (Modifier.resolve key value) value)).value := by
  cases modifier : Modifier.resolve key value with
  | not =>
      cases value with
      | document fields =>
          rw [Operand.ofValue, if_pos rfl, lowerOperand, Reported.value_bind,
            value_lower_modifiers]
          exact settledOperator_negated context field _
      | _ => exact settledOperator_not context field _
  | text kind =>
      rw [Operand.ofValue_of_ne Modifier.noConfusion]
      refine settledOperator_text context field fun contains => ?_
      rcases Modifier.resolve_cases key value with ⟨verbatim, -⟩ | ⟨-, isString⟩
      · rw [modifier] at verbatim
        cases verbatim
      · exact isString (contains ▸ modifier)
  | comparison comparison =>
      rw [Operand.ofValue_of_ne Modifier.noConfusion]
      exact settledOperator_comparison context field comparison value
  | verbatim other =>
      rw [Operand.ofValue_of_ne Modifier.noConfusion]
      exact settledOperator_verbatim context field modifier

theorem settledOperator_of_mem_emitted {context : Context} {field : String}
    {fields : Document} {entry : String × Value}
    (member : entry ∈ (emitted context field (Operand.ofFields fields)).value) :
    SettledOperator context field entry := by
  induction fields with
  | nil => cases member
  | cons first rest ih =>
      obtain ⟨key, value⟩ := first
      rcases List.mem_cons.1 member with here | later
      · rw [here]
        exact settledOperator_lowerOperand context field key value
      · exact ih later

/-! ## Whole expressions -/

/-- Settled operators are written as they stand. -/
theorem emitted_of_settled {context : Context} {field : String} {fields : Document}
    (settled : ∀ entry ∈ fields, SettledOperator context field entry) :
    (emitted context field (Operand.ofFields fields)).value = fields := by
  induction fields with
  | nil => rfl
  | cons entry rest ih =>
      have here := settled entry List.mem_cons_self
      have later := ih fun other member => settled other (List.mem_cons_of_mem _ member)
      simp only [Operand.ofFields, emitted, Reported.value_bind, Reported.value_pure, later]
      exact congrArg (· :: rest) here

theorem lower_ofValue_document {context : Context} {field : String} {fields : Document}
    (nodup : (Keyed.keys fields).Nodup)
    (settled : ∀ entry ∈ fields, SettledOperator context field entry)
    (kept : unwrapRegex fields = .document fields) :
    (lower context field (ofValue (.document fields))).value = .document fields := by
  rw [ofValue, value_lower_modifiers, emitted_of_settled settled,
    Keyed.ofList_of_nodup nodup, kept]

theorem lower_lower_modifiers (context : Context) (field : String) (fields : Document) :
    (lower context field
        (ofValue (lower context field (ofValue (.document fields))).value)).value =
      (lower context field (ofValue (.document fields))).value := by
  rw [ofValue, value_lower_modifiers]
  let written := Keyed.ofList (emitted context field (Operand.ofFields fields)).value
  have nodup : (Keyed.keys written).Nodup := Keyed.nodup_keys_ofList _
  have settled : ∀ entry ∈ written, SettledOperator context field entry := fun _ member =>
    settledOperator_of_mem_emitted (Keyed.mem_of_mem_ofList member)
  rcases unwrapRegex_eq_or written with ⟨r, -, regex⟩ | document
  · rw [regex]
    exact congrArg Reported.value (Coercion.coerce_regex context field r)
  · rw [document]
    exact lower_ofValue_document nodup settled document

theorem lower_lower_membership (context : Context) (field : String) (items : List Value) :
    (lower context field
        (ofValue (lower context field (ofValue (.array items))).value)).value =
      (lower context field (ofValue (.array items))).value := by
  have notVerbatim : Modifier.verbatim "$in" ≠ .verbatim "$ne" := by decide
  have kept : (Coercion.coerceOperand context field (.verbatim "$in")
      (Coercion.coerce context field (.array items)).value).value =
        (Coercion.coerce context field (.array items)).value := by
    rw [Coercion.coerceOperand_of_ne notVerbatim, Coercion.coerce_coerce]
  have unspelled : Modifier.ofLowercase? (Text.lowercase "$in") = none := by decide
  have settled := settledOperator_of_unspelled unspelled kept
  rw [Coercion.coerce_array] at settled
  refine lower_ofValue_document (List.pairwise_singleton _ _) ?_ ?_
  · intro entry member
    rw [List.mem_singleton.1 member, Coercion.coerce_array]
    exact settled
  · rw [Coercion.coerce_array]
    rfl

theorem ofValue_coerce {value : Value} (scalar : ofValue value = .scalar value)
    (context : Context) (field : String) :
    ofValue (Coercion.coerce context field value).value =
      .scalar (Coercion.coerce context field value).value := by
  rcases Coercion.string_or_array_or_fixed value with ⟨text, rfl⟩ | ⟨items, rfl⟩ | fixed
  · have fromText := Coercion.coerce_string_fromText context field text
    generalize (Coercion.coerce context field (.string text)).value = coerced at fromText
    cases fromText <;> rfl
  · cases scalar
  · rw [Coercion.coerce_of_fixed context field fixed]
    exact scalar

/-- What a field is asked for, read again and lowered again, is itself. -/
theorem lower_lower (context : Context) (field : String) (value : Value) :
    (lower context field (ofValue (lower context field (ofValue value)).value)).value =
      (lower context field (ofValue value)).value := by
  have ofScalar (scalar : ofValue value = .scalar value) :
      (lower context field (ofValue (lower context field (ofValue value)).value)).value =
        (lower context field (ofValue value)).value := by
    rw [scalar, lower, ofValue_coerce scalar, lower, Coercion.coerce_coerce]
  cases value with
  | document fields => exact lower_lower_modifiers context field fields
  | array items => exact lower_lower_membership context field items
  | _ => exact ofScalar rfl

end Expression

end Criteria
