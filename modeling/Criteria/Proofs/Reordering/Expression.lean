import Criteria.Proofs.Clause.Sources
import Mathlib.Data.List.Forall2

/-!
# Operator documents in another order

`Reordered` relates two values that differ in the order of entries only: in criteria
the entries of clause documents, like groups and modifier maps, and in a query those
of levels and operator documents. A modifier map that writes no key twice and the
same map in another order are translated to operator documents that are reordered,
and the same is reported of both.
-/

namespace Criteria

/-- What a value is at its place: a clause document, the elements of a logical
operator, a like group, a modifier map, or a value in which nothing moves. -/
inductive Role
  | clause
  | elements
  | group
  | modifiers
  | fixed
deriving DecidableEq, Repr

/-- Whether the entries of a document stand in any order. -/
def Role.isUnordered : Role → Bool
  | clause | group | modifiers => true
  | elements | fixed => false

mutual

/-- Values that differ in the order of entries only, of documents whose role leaves
the order open. The roles of entries follow from the role of their document and from
their keys. -/
inductive Reordered (places : Role → String → Role) : Role → Value → Value → Prop
  | same (role : Role) (value : Value) : Reordered places role value value
  | document {role : Role} {first moved second : Document}
      (unordered : role.isUnordered = true)
      (entries : ReorderedEntries places role first moved) (order : moved.Perm second) :
      Reordered places role (.document first) (.document second)
  | array {first second : List Value} (items : ReorderedItems places first second) :
      Reordered places .elements (.array first) (.array second)

inductive ReorderedEntries (places : Role → String → Role) : Role → Document → Document → Prop
  | nil {role : Role} : ReorderedEntries places role [] []
  | cons {role : Role} {key : String} {first second : Value} {firstRest secondRest : Document}
      (here : Reordered places (places role key) first second)
      (later : ReorderedEntries places role firstRest secondRest) :
      ReorderedEntries places role ((key, first) :: firstRest) ((key, second) :: secondRest)

inductive ReorderedItems (places : Role → String → Role) : List Value → List Value → Prop
  | nil : ReorderedItems places [] []
  | cons {first second : Value} {firstRest secondRest : List Value}
      (here : Reordered places .clause first second)
      (later : ReorderedItems places firstRest secondRest) :
      ReorderedItems places (first :: firstRest) (second :: secondRest)

end

def ClauseKey.role : ClauseKey → Role
  | logical _ => .elements
  | likeGroup => .group
  | field => .modifiers

def criteriaPlaces : Role → String → Role
  | .clause, key => (ClauseKey.ofKey key).role
  | .modifiers, key =>
    if Modifier.ofLowercase? (Text.lowercase key) = some .not then .modifiers else .fixed
  | _, _ => .fixed

def queryPlaces : Role → String → Role
  | .clause, key => if (Meaning.Store.logical? key).isSome then .elements else .modifiers
  | .modifiers, key => if key = Meaning.negationKey then .modifiers else .fixed
  | _, _ => .fixed

/-- Entries whose values are all fixed are the same. -/
theorem ReorderedEntries.eq_of_fixed {places : Role → String → Role} {role : Role}
    (fixed : ∀ key, places role key = .fixed) : ∀ {first second : Document},
    ReorderedEntries places role first second → first = second
  | _, _, .nil => rfl
  | _, _, @ReorderedEntries.cons _ _ key _ _ _ _ here later => by
      have rest := later.eq_of_fixed fixed
      rw [fixed key] at here
      cases here with
      | same => rw [rest]
      | document unordered => cases unordered

/-! ## Translations that differ in order -/

/-- Translations to values that are reordered, with the same diagnostics in some
order. -/
structure Alike (role : Role) (first second : Reported Value) : Prop where
  value : Reordered queryPlaces role first.value second.value
  diagnostics : first.diagnostics.Perm second.diagnostics

theorem Alike.refl (role : Role) (reported : Reported Value) : Alike role reported reported :=
  ⟨.same role reported.value, List.Perm.refl _⟩

/-- The translated entries of two documents: one by one alike, after a change of
their order. -/
def AlikeEntries (role : Role) (first second : Keyed (Reported Value)) : Prop :=
  ∃ moved, List.Forall₂
      (fun here there => here.1 = there.1 ∧ Alike (queryPlaces role here.1) here.2 there.2)
      first moved ∧
    moved.Perm second

namespace AlikeEntries

variable {role : Role} {first second : Keyed (Reported Value)}

theorem refl (role : Role) (entries : Keyed (Reported Value)) :
    AlikeEntries role entries entries := by
  refine ⟨entries, ?_, List.Perm.refl _⟩
  exact List.forall₂_same.2 fun entry _ => ⟨rfl, .refl _ entry.2⟩

theorem singleton {key : String} {here there : Reported Value}
    (alike : Alike (queryPlaces role key) here there) :
    AlikeEntries role [(key, here)] [(key, there)] :=
  ⟨[(key, there)], .cons ⟨rfl, alike⟩ .nil, List.Perm.refl _⟩

theorem of_perm (order : first.Perm second) : AlikeEntries role first second := by
  obtain ⟨moved, alike, same⟩ := AlikeEntries.refl role first
  exact ⟨moved, alike, same.trans order⟩

theorem perm {moved : Keyed (Reported Value)} (alike : AlikeEntries role first moved)
    (order : moved.Perm second) : AlikeEntries role first second := by
  obtain ⟨between, pointwise, before⟩ := alike
  exact ⟨between, pointwise, before.trans order⟩

theorem append {firstRest secondRest : Keyed (Reported Value)}
    (here : AlikeEntries role first second) (later : AlikeEntries role firstRest secondRest) :
    AlikeEntries role (first ++ firstRest) (second ++ secondRest) := by
  obtain ⟨moved, pointwise, order⟩ := here
  obtain ⟨movedRest, pointwiseRest, orderRest⟩ := later
  exact ⟨moved ++ movedRest, List.rel_append pointwise pointwiseRest, order.append orderRest⟩

theorem keys_perm (alike : AlikeEntries role first second) :
    (Keyed.keys first).Perm (Keyed.keys second) := by
  obtain ⟨moved, pointwise, order⟩ := alike
  have keys : List.Forall₂ Eq (Keyed.keys first) (Keyed.keys moved) :=
    List.forall₂_map_left_iff.2 (List.forall₂_map_right_iff.2 (pointwise.imp fun _ _ => And.left))
  rw [List.forall₂_eq_eq_eq] at keys
  rw [keys]
  exact order.map Prod.fst

end AlikeEntries

/-! ## Documents of translated entries -/

def translatedValues (entries : Keyed (Reported Value)) : Document :=
  entries.mapEntries fun _ reported => reported.value

/-- What is reported of translated entries, in order. -/
def translatedDiagnostics (entries : Keyed (Reported Value)) : List Diagnostic :=
  entries.flatMap fun entry => entry.2.diagnostics

theorem AlikeEntries.values {role : Role} {first second : Keyed (Reported Value)}
    (alike : AlikeEntries role first second) :
    ∃ moved, ReorderedEntries queryPlaces role (translatedValues first) moved ∧
      moved.Perm (translatedValues second) := by
  obtain ⟨moved, pointwise, order⟩ := alike
  refine ⟨translatedValues moved, ?_, order.map _⟩
  clear order
  induction pointwise with
  | nil => exact .nil
  | @cons here there firstRest secondRest pair _ ih =>
      obtain ⟨key, first⟩ := here
      obtain ⟨other, second⟩ := there
      obtain ⟨rfl, translations⟩ := pair
      exact .cons translations.value ih

theorem AlikeEntries.diagnostics {role : Role} {first second : Keyed (Reported Value)}
    (alike : AlikeEntries role first second) :
    (translatedDiagnostics first).Perm (translatedDiagnostics second) := by
  obtain ⟨moved, pointwise, order⟩ := alike
  refine List.Perm.trans ?_ (order.flatMap_right _)
  clear order
  induction pointwise with
  | nil => exact List.Perm.refl _
  | cons pair _ ih => exact pair.2.diagnostics.append ih

/-! ## Operator documents -/

namespace Expression

/-- A document that is written as one regular expression is written so in every
order. -/
theorem unwrapRegex_reordered {first moved second : Document}
    (entries : ReorderedEntries queryPlaces .modifiers first moved)
    (order : moved.Perm second) :
    Reordered queryPlaces .modifiers (unwrapRegex first) (unwrapRegex second) := by
  -- a regular expression alone has no other order, so both are unwrapped or neither is
  rcases unwrapRegex_eq_or first with ⟨r, rfl, regex⟩ | firstWhole
  · obtain ⟨⟩ | ⟨here, later⟩ := entries
    cases here
    cases later
    rw [List.perm_singleton.1 order.symm]
    exact .same _ _
  · rcases unwrapRegex_eq_or second with ⟨r, rfl, regex⟩ | secondWhole
    · rw [List.perm_singleton.1 order] at entries
      obtain ⟨⟩ | ⟨here, later⟩ := entries
      cases here
      cases later
      exact .same _ _
    · rw [firstWhole, secondWhole]
      exact .document rfl entries order

variable (context : Context) (field : String)

def translated (fields : Document) : Keyed (Reported Value) :=
  fields.map fun entry =>
    ((lowerField context field entry).value.1, Prod.snd <$> lowerField context field entry)

theorem keys_translated (fields : Document) :
    Keyed.keys (translated context field fields) = Meaning.modifierKeys fields := by
  rw [translated, Keyed.keys, List.map_map]
  exact List.map_congr_left fun entry _ => key_lowerField context field entry

theorem translatedValues_translated (fields : Document) :
    translatedValues (translated context field fields) =
      (emitted context field (Operand.ofFields fields)).value := by
  rw [value_emitted_ofFields, translated, translatedValues, Keyed.mapEntries, List.map_map]
  rfl

theorem translatedDiagnostics_translated (fields : Document) :
    translatedDiagnostics (translated context field fields) =
      (emitted context field (Operand.ofFields fields)).diagnostics := by
  rw [diagnostics_emitted_ofFields, translated, translatedDiagnostics, List.flatMap_map]
  simp

/-- A modifier map that writes no key twice is translated entry by entry. -/
theorem value_lower_of_nodup {fields : Document} (nodup : (Meaning.modifierKeys fields).Nodup) :
    (lower context field (ofValue (.document fields))).value =
      unwrapRegex (translatedValues (translated context field fields)) := by
  have keys : (Keyed.keys (translatedValues (translated context field fields))).Nodup := by
    rw [translatedValues, Keyed.keys_mapEntries, keys_translated]
    exact nodup
  rw [ofValue, value_lower_modifiers, ← translatedValues_translated, Keyed.ofList_of_nodup keys]

theorem diagnostics_lower_ofValue (fields : Document) :
    (lower context field (ofValue (.document fields))).diagnostics =
      translatedDiagnostics (translated context field fields) := by
  rw [ofValue, diagnostics_lower_modifiers, translatedDiagnostics_translated]

/-- Modifier maps are written alike if their entries are and no two share a key. -/
theorem alike_of_translated {first second : Document}
    (nodup : (Meaning.modifierKeys first).Nodup)
    (alike : AlikeEntries .modifiers (translated context field first)
      (translated context field second)) :
    Alike .modifiers (lower context field (ofValue (.document first)))
      (lower context field (ofValue (.document second))) := by
  have keys := alike.keys_perm
  rw [keys_translated, keys_translated] at keys
  obtain ⟨moved, entries, order⟩ := alike.values
  constructor
  · rw [value_lower_of_nodup context field nodup,
      value_lower_of_nodup context field (keys.nodup_iff.1 nodup)]
    exact unwrapRegex_reordered entries order
  · rw [diagnostics_lower_ofValue, diagnostics_lower_ofValue]
    exact alike.diagnostics

theorem translated_alike_of_operand {key : String} {first second : Value}
    (operand : Reordered criteriaPlaces (criteriaPlaces .modifiers key) first second)
    (negated : Modifier.ofLowercase? (Text.lowercase key) = some .not →
      Alike .modifiers (lower context field (ofValue first))
        (lower context field (ofValue second))) :
    AlikeEntries .modifiers (translated context field [(key, first)])
      (translated context field [(key, second)]) := by
  -- what stands under any other modifier is fixed, and the same on both sides
  by_cases spelled : Modifier.ofLowercase? (Text.lowercase key) = some .not
  · have resolved : ∀ value, Modifier.resolve key value = .not := by
      intro value
      rw [Modifier.resolve, spelled]
    rw [criteriaPlaces, if_pos spelled] at operand
    cases operand with
    | same => exact .refl _ _
    | document =>
        have alike := negated spelled
        simp only [translated, List.map_singleton, lowerField_negated context field (resolved _)]
        exact .singleton ⟨alike.value, by simpa using alike.diagnostics⟩
  · rw [criteriaPlaces, if_neg spelled] at operand
    cases operand with
    | same => exact .refl _ _
    | document unordered => cases unordered

mutual

-- by induction on the reordering; its role is an index, hence a variable with an equation
/-- Reordered modifier maps are written as reordered operators. -/
theorem lower_alike : ∀ {role : Role} {first second : Value},
    Reordered criteriaPlaces role first second → role = .modifiers →
    Meaning.distinctExpression first = true →
    Alike .modifiers (lower context field (ofValue first))
      (lower context field (ofValue second))
  | _, _, _, .same _ value, _, _ => .refl .modifiers (lower context field (ofValue value))
  | _, _, _, .document _ entries order, isMap, distinct => by
      obtain ⟨nodup, operands⟩ := Bool.and_eq_true_iff.1 distinct
      have moved := translated_alike entries isMap operands
      exact alike_of_translated context field (of_decide_eq_true nodup)
        (moved.perm (order.map _))
  | _, _, _, .array _, isMap, _ => by cases isMap

theorem translated_alike : ∀ {role : Role} {first second : Document},
    ReorderedEntries criteriaPlaces role first second → role = .modifiers →
    Meaning.distinctOperands first = true →
    AlikeEntries .modifiers (translated context field first) (translated context field second)
  | _, _, _, .nil, _, _ => .refl .modifiers []
  | _, _, _, @ReorderedEntries.cons _ _ key first _ _ _ here later, isMap, distinct => by
      obtain ⟨hereDistinct, restDistinct⟩ := Bool.and_eq_true_iff.1 distinct
      subst isMap
      have rest := translated_alike later rfl restDistinct
      refine .append (translated_alike_of_operand context field here fun spelled => ?_) rest
      have role : criteriaPlaces .modifiers key = .modifiers := if_pos spelled
      have resolved : Modifier.resolve key first = .not := by rw [Modifier.resolve, spelled]
      rw [if_pos resolved] at hereDistinct
      exact lower_alike here role hereDistinct

end

end Expression

end Criteria
