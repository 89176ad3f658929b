import Criteria.Proofs.Identifiers.Origin
import Criteria.Proofs.Identifiers.Places
import Criteria.Proofs.Identifiers.Spelling

/-!
# The identifiers of a query

With identifiers asked for, a query is the plain query of the criteria in which they stand
in place, and in the plain query only strings follow the schema. Without them, a query has
no identifier that its criteria do not have.
-/

namespace Criteria

open Coercion (coerceAt toObjectId)

namespace Coercion

/-- Coercion in two steps: identifiers first, under the store's name of the identity only
and not below the store's own inequality, and then the schema for what is still a
string. -/
structure IdentifiesFirst (context : Context) : Prop where
  identity : context.options.objectIdIdentity = true →
    ∀ place value, place ≠ some (.verbatim "$ne") →
      coerceAt context identityField place value =
        coerceAt context.plain identityField place (toObjectId value)
  elsewhere : ∀ name place value, name ≠ identityField →
    coerceAt context name place value = coerceAt context.plain name place value
  typed : ∀ name place text, place ≠ some (.verbatim "$ne") →
    coerceAt context.plain name place (.string text) = typed context name text
  kept : ∀ name place value, value.isString = false →
    coerceAt context.plain name place value = pure value

variable (context : Context) {name : String} {place : Option Modifier}

/-- Under other names than the identity's, no identifier is made. -/
theorem coerceAt_plain_of_ne (other : name ≠ identityField) (value : Value) :
    coerceAt context name place value = coerceAt context.plain name place value := by
  by_cases inequality : place = some (.verbatim "$ne")
  · rw [inequality]
    rfl
  · rw [coerceAt_of_ne inequality, coerceAt_of_ne inequality, coerce_plain_of_ne context other]

theorem coerceAt_plain_string (other : place ≠ some (.verbatim "$ne")) (text : String) :
    coerceAt context.plain name place (.string text) = typed context name text := by
  have unidentified : ¬context.plain.options.Identifies name text :=
    fun both => Bool.noConfusion both.1
  rw [coerceAt_of_ne other, coerce_string_of_not_identifies context.plain unidentified]
  rfl

theorem coerceAt_plain_of_ne_string {value : Value} (notString : value.isString = false) :
    coerceAt context.plain name place value = pure value := by
  have coerced : coerce context.plain name value = pure value := by
    rcases string_or_array_or_fixed value with ⟨text, rfl⟩ | ⟨items, rfl⟩ | fixed
    · cases notString
    · rw [coerce_array, identifiedItems, if_neg fun both => Bool.noConfusion both.1]
    · exact coerce_of_fixed context.plain name fixed
  by_cases inequality : place = some (.verbatim "$ne")
  · rw [inequality]
    rfl
  · rw [coerceAt_of_ne inequality, coerced]

theorem identifiesFirst : IdentifiesFirst context where
  identity identifying place value other := by
    rw [coerceAt_of_ne other, coerceAt_of_ne other, coerce_identity identifying]
  elsewhere _ _ value other := coerceAt_plain_of_ne context other value
  typed _ _ text other := coerceAt_plain_string context other text
  kept _ _ _ notString := coerceAt_plain_of_ne_string context notString

end Coercion

/-- With the option for identifiers, a query is the plain query of the criteria in which
the identifiers stand in place: of the strings of twenty-four digits, at any depth of
arrays, where the identity is asked for. The schema comes second, and makes no identifier.
Without the option, whatever holds an identifier in a query stands in its criteria. -/
theorem query_identifiers (context : Context) :
    (context.options.objectIdIdentity = true → ∀ criteria : Document,
        query context criteria = query context.plain (Identity.criteria criteria)) ∧
      (∀ value identified, Coercion.Identified value identified ↔
        identified = toObjectId value) ∧
      Coercion.IdentifiesFirst context ∧
      (context.options.objectIdIdentity = false → ∀ (criteria : Document) (part : Value),
        part.holdsIdentifier = true →
        part ∈ (Value.document (query context criteria).value).parts →
          part ∈ (Value.document criteria).parts) := by
  refine ⟨query_criteria, Coercion.identified_iff, Coercion.identifiesFirst context, ?_⟩
  intro off criteria part holds member
  exact mem_parts_query holds off member

/-- One text of digits in every place: identifiers are made of it below a negation, in a
nested array, in a comparison and in a pattern that is no text, but not of the operand of
an inequality, of a text match, of an array in a document, or under the general name. -/
theorem query_identifiers_of_every_place :
    let text := "0123456789abcdefABCDEF01"
    let id : ObjectId :=
      ⟨[0x01, 0x23, 0x45, 0x67, 0x89, 0xab, 0xcd, 0xef, 0xab, 0xcd, 0xef, 0x01], rfl⟩
    let context : Context :=
      ⟨Schema.ofList [("_id", .integer), ("id", .string)], { objectIdIdentity := true }⟩
    let conditions : Value → Value → Value → Document := fun negated compared members =>
      [("id", .document
          [("!", .array [negated, .array [negated, .string "7"],
              .document [("$in", .array [.string text])]]),
            ("$ne", .string text), ("gt", compared), ("like", .string text)]),
        ("or", .array [.document [("_id", .string "7")],
          .document [("like", .document
            [("_id", .array [members]), ("id", .array [.string text])])]]),
        ("id", .string text)]
    let criteria : Document :=
      [(whereKey, .document (conditions (.string text) (.string text) (.string text)))]
    let identified : Document :=
      [(whereKey, .document (conditions (.objectId id) (.objectId id) (.objectId id)))]
    let written : Document :=
      [("_id", .document
          [("$nin", .array [.objectId id, .array [.objectId id, .string "7"],
              .document [("$in", .array [.string text])]]),
            ("$ne", .string text), ("$gt", .objectId id),
            ("$regex", .regex ⟨"^" ++ text ++ "$", "i"⟩)]),
        ("$or", .array [.document [("_id", .int32 7)],
          .document [("_id", .document [("like", .array [.objectId id])]),
            ("id", .document [("like", .array [.string text])])]]),
        ("id", .string text)]
    Identity.criteria criteria = identified ∧
      query context criteria = query context.plain identified ∧
      query context criteria = pure [(whereKey, .document written)] ∧
      coerceAt context "_id" none (.string text) =
        coerceAt context.plain "_id" none (.objectId id) ∧
      Value.objectId id ∈ (Value.document identified).parts := by
  -- the names are unfolded first, since evaluation stops at a named text
  dsimp only
  refine ⟨rfl, (query_identifiers _).1 rfl _, rfl,
    (query_identifiers _).2.2.1.identity rfl none (.string _) (Option.some_ne_none _).symm, ?_⟩
  refine (query_identifiers ⟨Schema.empty, {}⟩).2.2.2 rfl _ _ rfl ?_
  refine Value.mem_parts_document.2 (Or.inr ⟨_, List.mem_cons_self, ?_⟩)
  refine Value.mem_parts_document.2 (Or.inr ⟨_, List.mem_cons_self, ?_⟩)
  refine Value.mem_parts_document.2 (Or.inr ⟨_, List.mem_cons_self, ?_⟩)
  refine Value.mem_parts_array.2 (Or.inr ⟨_, List.mem_cons_self, ?_⟩)
  exact Value.mem_parts_self _

end Criteria
