import Criteria.Proofs.Clause.Emission
import Criteria.Proofs.Number.Rational
import Criteria.Proofs.Sort
import Criteria.Query

/-!
# The priority of sort keys

The order of the keys of a sort is their priority. A normal sort has every key at the
place where it comes up first, with the direction that is asked for last. Only the two
names of the identity can fall together; where they do not, the keys stand in the order of
the input.
-/

namespace Criteria

theorem eraseDups_map_of_injOn {α β : Type} [BEq α] [LawfulBEq α] [BEq β] [LawfulBEq β]
    {change : α → β} : ∀ {items : List α},
    (∀ first ∈ items, ∀ second ∈ items, change first = change second → first = second) →
    (items.map change).eraseDups = items.eraseDups.map change
  | [], _ => rfl
  | head :: rest, injective => by
      have apart : (rest.map change).filter (fun changed => !changed == change head) =
          (rest.filter fun item => !item == head).map change := by
        rw [List.filter_map]
        congr 1
        refine List.filter_congr fun item member => ?_
        have same : change item = change head ↔ item = head := by
          constructor
          · exact injective item (List.mem_cons_of_mem _ member) head List.mem_cons_self
          · exact congrArg change
        simp [same]
      have shorter : ((rest.filter fun item => !item == head).map change).eraseDups =
          (rest.filter fun item => !item == head).eraseDups.map change :=
        eraseDups_map_of_injOn fun first firstMember second member =>
          injective first (List.mem_cons_of_mem _ (List.mem_of_mem_filter firstMember)) second
            (List.mem_cons_of_mem _ (List.mem_of_mem_filter member))
      rw [List.map_cons, List.eraseDups_cons, List.eraseDups_cons, List.map_cons, apart, shorter]
termination_by items => items.length
decreasing_by
  have bound := List.length_filter_le (fun item => !item == head) rest
  simp only [List.length_cons]
  omega

/-- The number that a value is; whatever is no number is none, and so are the infinities
and the double that is no number. -/
def Value.number? : Value → Option ℚ
  | .int32 n => some n.toInt
  | .int64 n => some n.toInt
  | .double d => d.rational?
  | _ => none

abbrev Value.IsZeroOrMinusOne (value : Value) : Prop :=
  value.number? = some 0 ∨ value.number? = some (-1)

theorem query_append (context : Context) (first second : Document) :
    query context (first ++ second) =
      (do
        let before ← query context first
        let after ← query context second
        pure (before ++ after)) := by
  induction first with
  | nil =>
      apply Reported.eq_of_parts
      · rfl
      · exact (List.append_nil _).symm
  | cons entry rest ih =>
      rw [List.cons_append, query, query, ih]
      apply Reported.eq_of_parts
      · rfl
      · simp only [Reported.diagnostics_bind, Reported.value_bind, Reported.diagnostics_pure,
          List.append_nil, List.append_assoc]

end Criteria

namespace Criteria.Sort

/-! ## Directions -/

/-- The kinds of numbers need no cases: what counts is the number itself. -/
theorem isDescending_iff (indicator : Value) :
    isDescending indicator = true ↔ indicator.IsZeroOrMinusOne := by
  cases indicator with
  | int32 n =>
      have zero : n = 0 ↔ n.toInt = 0 := Int32.toInt_inj.symm
      have minusOne : n = -1 ↔ n.toInt = -1 := Int32.toInt_inj.symm
      rw [isDescending, Bool.or_eq_true, beq_iff_eq, beq_iff_eq, zero, minusOne]
      simp only [Value.IsZeroOrMinusOne, Value.number?, Option.some.injEq]
      norm_cast
  | int64 n =>
      have zero : n = 0 ↔ n.toInt = 0 := Int64.toInt_inj.symm
      have minusOne : n = -1 ↔ n.toInt = -1 := Int64.toInt_inj.symm
      rw [isDescending, Bool.or_eq_true, beq_iff_eq, beq_iff_eq, zero, minusOne]
      simp only [Value.IsZeroOrMinusOne, Value.number?, Option.some.injEq]
      norm_cast
  | double d =>
      rw [isDescending, Bool.or_eq_true, Double.equalsInt_iff, Double.equalsInt_iff]
      norm_cast
  | _ => simp [isDescending, Value.IsZeroOrMinusOne, Value.number?]

theorem direction_eq (indicator : Value) :
    direction indicator = .int32 (if indicator.IsZeroOrMinusOne then -1 else 1) := by
  unfold direction
  by_cases descending : indicator.IsZeroOrMinusOne
  · rw [if_pos descending, if_pos ((isDescending_iff indicator).2 descending)]
  · rw [if_neg descending, if_neg fun asked => descending ((isDescending_iff indicator).1 asked)]

/-! ## Keys -/

theorem keys_renamed (fields : Document) :
    Keyed.keys (fields.map fun entry => (outputName entry.1, direction entry.2)) =
      (Keyed.keys fields).map outputName := by
  simp [Keyed.keys, Function.comp_def]

theorem keys_normalize (fields : Document) :
    Keyed.keys (normalize fields) = ((Keyed.keys fields).map outputName).eraseDups := by
  rw [normalize, Keyed.keys_ofList, keys_renamed]

theorem mem_normalize_iff (fields : Document) (name : String) (value : Value) :
    (name, value) ∈ normalize fields ↔
      ∃ earlier key indicator later, fields = earlier ++ (key, indicator) :: later ∧
        outputName key = name ∧ name ∉ (Keyed.keys later).map outputName ∧
        direction indicator = value := by
  rw [normalize, Keyed.mem_ofList_iff]
  constructor
  · rintro ⟨earlier, later, split, last⟩
    obtain ⟨first, rest, rfl, rfl, behind⟩ := List.map_eq_append_iff.1 split
    obtain ⟨⟨key, indicator⟩, more, rfl, entry, rfl⟩ := List.map_eq_cons_iff.1 behind
    obtain ⟨named, directed⟩ := Prod.mk.inj entry
    exact ⟨first, key, indicator, more, rfl, named, keys_renamed more ▸ last, directed⟩
  · rintro ⟨earlier, key, indicator, later, rfl, rfl, last, rfl⟩
    refine ⟨_, _, List.map_append, ?_⟩
    exact (keys_renamed later).symm ▸ last

theorem identityAlias_ne_outputName (name : String) : outputName name ≠ identityAlias := by
  unfold outputName
  split
  · decide
  · assumption

/-- Only the two names of the identity are written alike. -/
theorem eq_of_outputName_eq {first second : String}
    (same : outputName first = outputName second) :
    first = second ∨ first = identityAlias ∧ second = identityField ∨
      first = identityField ∧ second = identityAlias := by
  unfold outputName at same
  split at same <;> split at same
  · rename_i firstGeneral secondGeneral
    exact Or.inl (firstGeneral.trans secondGeneral.symm)
  · rename_i firstGeneral _
    exact Or.inr (Or.inl ⟨firstGeneral, same.symm⟩)
  · rename_i _ secondGeneral
    exact Or.inr (Or.inr ⟨same, secondGeneral⟩)
  · exact Or.inl same

/-- Without both names of the identity, keys keep the order in which they come first. -/
theorem keys_normalize_of_one_identity {fields : Document}
    (one : ¬(identityAlias ∈ Keyed.keys fields ∧ identityField ∈ Keyed.keys fields)) :
    Keyed.keys (normalize fields) = (Keyed.keys fields).eraseDups.map outputName := by
  rw [keys_normalize]
  refine eraseDups_map_of_injOn fun first firstMember second secondMember same => ?_
  rcases eq_of_outputName_eq same with equal | ⟨rfl, rfl⟩ | ⟨rfl, rfl⟩
  · exact equal
  · exact absurd ⟨firstMember, secondMember⟩ one
  · exact absurd ⟨secondMember, firstMember⟩ one

/-! ## Sorts of a query -/

theorem entryQuery_sort (context : Context) (fields : Document) :
    entryQuery context sortKey (.document fields) = pure (.document (normalize fields)) := by
  have other : sortKey ≠ whereKey := by decide
  rw [entryQuery, if_neg other, if_pos rfl]
  rfl

theorem query_sort (context : Context) (before fields after : Document) :
    query context (before ++ (sortKey, .document fields) :: after) =
      (do
        let first ← query context before
        let last ← query context after
        pure (first ++ (sortKey, .document (normalize fields)) :: last)) := by
  rw [query_append, query, entryQuery_sort]
  apply Reported.eq_of_parts
  · rfl
  · simp

/-- A sort has in every query, whatever the schema and the options, its names in the order
in which they first come up, each once and with the store's name for the identity. Each
name has the direction of its last indicator: descending for a number that is zero or
minus one and ascending for anything else. Such a sort has no `id` and is kept as it is.
Without both names of the identity every key keeps its place. -/
theorem sort_priority (fields : Document) :
    let renamed (name : String) : String := if name = "id" then "_id" else name
    ∃ sorted : Document,
      (∀ context before after, query context (before ++ (sortKey, .document fields) :: after) =
        (do
          let first ← query context before
          let last ← query context after
          pure (first ++ (sortKey, .document sorted) :: last))) ∧
      Keyed.keys sorted = ((Keyed.keys fields).map renamed).eraseDups ∧
      (∀ name value, (name, value) ∈ sorted ↔
        ∃ earlier key indicator later, fields = earlier ++ (key, indicator) :: later ∧
          renamed key = name ∧ name ∉ (Keyed.keys later).map renamed ∧
          value = .int32 (if indicator.IsZeroOrMinusOne then -1 else 1)) ∧
      "id" ∉ Keyed.keys sorted ∧
      (∀ context, query context [(sortKey, .document sorted)] =
        pure [(sortKey, .document sorted)]) ∧
      (¬("id" ∈ Keyed.keys fields ∧ "_id" ∈ Keyed.keys fields) →
        Keyed.keys sorted = (Keyed.keys fields).eraseDups.map renamed) := by
  intro renamed
  refine ⟨normalize fields, fun context before after => query_sort context before fields after,
    keys_normalize fields, fun name value => ?_, fun general => ?_, fun context => ?_,
    keys_normalize_of_one_identity⟩
  · rw [mem_normalize_iff]
    simp only [direction_eq, eq_comm (a := value)]
    rfl
  · rw [keys_normalize, List.mem_eraseDups] at general
    obtain ⟨name, -, named⟩ := List.mem_map.1 general
    exact identityAlias_ne_outputName name named
  · have again := query_sort context [] (normalize fields) []
    rw [normalize_normalize] at again
    exact again

/-- A negative zero in front of one name of the identity. -/
theorem sort_priority_of_one_identity :
    let fields : Document :=
      [("b", .double (.zero true)), ("id", .int64 1), ("a", .string "0")]
    ¬("id" ∈ Keyed.keys fields ∧ "_id" ∈ Keyed.keys fields) ∧
      ∃ sorted, query ⟨Schema.empty, {}⟩ [(sortKey, .document fields)] =
          pure [(sortKey, .document sorted)] ∧
        Keyed.keys sorted = ["b", "_id", "a"] ∧ ("b", .int32 (-1)) ∈ sorted := by
  intro fields
  have one : ¬("id" ∈ Keyed.keys fields ∧ "_id" ∈ Keyed.keys fields) := by decide
  obtain ⟨sorted, queries, -, values, -, -, order⟩ := sort_priority fields
  have zero : (Value.double (.zero true)).IsZeroOrMinusOne :=
    (isDescending_iff _).1 (by decide +kernel)
  refine ⟨one, sorted, queries _ [] [], (order one).trans (by decide), ?_⟩
  refine (values _ _).2 ⟨[], "b", _, [_, _], rfl, rfl, by decide, ?_⟩
  rw [if_pos zero]

example : normalize [("_id", .int32 1), ("a", .int64 (-1)), ("id", .int32 0)] =
    [("_id", .int32 (-1)), ("a", .int32 (-1))] := by
  rfl

end Criteria.Sort
