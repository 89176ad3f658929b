import Criteria.Clause.Reading

/-!
# How keys are spelled

A key of a modifier map is claimed by a spelling or taken verbatim, and a key of a
clause document names a logical operator, a like group or a field.
-/

namespace Criteria

namespace Modifier

theorem spelled_or_ne_verbatim {claimed : Prop} [Decidable claimed] {modifier : Modifier}
    {others : Option Modifier} {key : String} (spelled : modifier ≠ .verbatim key)
    (unclaimed : others ≠ some (.verbatim key)) :
    (if claimed then some modifier else others) ≠ some (.verbatim key) := by
  split
  · exact fun same => spelled (Option.some.inj same)
  · exact unclaimed

theorem ofLowercase?_ne_verbatim (lower key : String) :
    ofLowercase? lower ≠ some (.verbatim key) := by
  unfold ofLowercase?
  repeat refine spelled_or_ne_verbatim Modifier.noConfusion ?_
  exact (Option.some_ne_none _).symm

/-- Either no spelling claims a key, or what claims it is resolved. A spelling of
`contains` claims a key before a string only. -/
theorem resolve_cases (key : String) (operand : Value) :
    (resolve key operand = .verbatim key ∧
        (ofLowercase? (Text.lowercase key) = none ∨
          ofLowercase? (Text.lowercase key) = some (.text .contains) ∧
            operand.isString = false)) ∨
      (ofLowercase? (Text.lowercase key) = some (resolve key operand) ∧
        (resolve key operand = .text .contains → operand.isString = true)) := by
  cases spelled : ofLowercase? (Text.lowercase key) with
  | none => exact Or.inl ⟨by rw [resolve, spelled], Or.inl rfl⟩
  | some modifier =>
      by_cases contains : modifier = .text .contains
      · subst contains
        cases isString : operand.isString with
        | false =>
            refine Or.inl ⟨?_, Or.inr ⟨rfl, rfl⟩⟩
            simp [resolve, spelled, isString]
        | true =>
            refine Or.inr ⟨?_, fun _ => rfl⟩
            simp [resolve, spelled, isString]
      · have resolved : resolve key operand = modifier := by
          unfold resolve
          rw [spelled]
          split
          · rename_i same
            exact absurd (Option.some.inj same) contains
          · rename_i same
            exact (Option.some.inj same).symm
          · rename_i impossible
            cases impossible
        exact Or.inr ⟨by rw [resolved], fun same => absurd (resolved ▸ same) contains⟩

theorem resolve_of_unspelled {key : String}
    (unspelled : ofLowercase? (Text.lowercase key) = none) (operand : Value) :
    resolve key operand = .verbatim key := by
  rw [resolve, unspelled]

/-- The store's comparisons are no spellings, so they are kept. -/
theorem resolve_comparison_key (comparison : Comparison) (operand : Value) :
    resolve comparison.key operand = .verbatim comparison.key :=
  resolve_of_unspelled (by cases comparison <;> decide) operand

/-- A key that is taken verbatim before one operand is taken so before any that is
no string either. -/
theorem resolve_verbatim_congr {key other : String} {operand changed : Value}
    (verbatim : resolve key operand = .verbatim other)
    (noString : operand.isString = false → changed.isString = false) :
    other = key ∧ resolve key changed = .verbatim key := by
  rcases resolve_cases key operand with ⟨same, unspelled⟩ | ⟨spelled, -⟩
  · refine ⟨(Modifier.verbatim.inj (same.symm.trans verbatim)).symm, ?_⟩
    rcases unspelled with unspelled | ⟨contains, notString⟩
    · exact resolve_of_unspelled unspelled changed
    · simp [resolve, contains, noString notString]
  · rw [verbatim] at spelled
    exact absurd spelled (ofLowercase?_ne_verbatim _ other)

end Modifier

theorem Operand.ofValue_of_ne {modifier : Modifier} (notNegated : modifier ≠ .not)
    (value : Value) : Operand.ofValue modifier value = .value value := by
  cases value with
  | document fields => exact if_neg notNegated
  | _ => rfl

/-- An operand is read further only as a negated document. -/
theorem Operand.ofValue_eq_or (modifier : Modifier) (value : Value) :
    (∃ fields, value = .document fields ∧ modifier = .not ∧
        Operand.ofValue modifier value = .nested (.modifiers (Operand.ofFields fields))) ∨
      Operand.ofValue modifier value = .value value := by
  by_cases negated : modifier = .not
  · subst negated
    cases value with
    | document fields =>
        refine Or.inl ⟨fields, rfl, rfl, ?_⟩
        rw [Operand.ofValue, if_pos rfl]
    | _ => exact Or.inr rfl
  · exact Or.inr (Operand.ofValue_of_ne negated value)

end Criteria
