import Criteria.Proofs.Clause.Sources

/-!
# The two names of the identity at one level

A field under the general name of the identity takes the store's name, unless that
is written already. So where a level has fields under both names, both conditions are
kept if the store's name stands first; if the general name stands first, the field
under the store's name is written over it.
-/

namespace Criteria.Clause

def identityNames : List String := [identityField, identityAlias]

/-- Entries that name the identity neither as a field nor in a like group. -/
def Apart (fields : Document) : Prop :=
  ∀ entry ∈ fields, entry.1 ∉ identityNames ∧
    (ClauseKey.ofKey entry.1 = .likeGroup →
      ∀ name ∈ identityNames, name ∉ Keyed.keys entry.2.fields)

theorem nameAfter_of_ne {key : String} (other : key ≠ identityAlias) (before : List String) :
    nameAfter before key = key :=
  if_neg fun both => other both.1

/-- Both names of the identity are read as a field. -/
theorem ofKey_identity {key : String} (identity : key ∈ identityNames) :
    ClauseKey.ofKey key = .field := by
  have fields : ∀ name ∈ identityNames, ClauseKey.ofKey name = .field := by decide
  exact fields key identity

theorem operator_key_not_identity (operator : LogicalOperator) :
    operator.key ∉ identityNames := by
  cases operator <;> decide

theorem not_mem_keys_entrySources {name key : String} {value : Value}
    (identity : name ∈ identityNames) (other : key ∉ identityNames)
    (group : ClauseKey.ofKey key = .likeGroup → name ∉ Keyed.keys value.fields)
    (before : List String) : name ∉ Keyed.keys (entrySources before key value) := by
  intro member
  obtain ⟨entry, written, rfl⟩ := List.mem_map.1 member
  obtain ⟨name, source⟩ := entry
  rcases mem_entrySources written with
    ⟨operator, items, -, -, named, -⟩ | ⟨pattern, kind, inGroup, -⟩ | ⟨-, named, -⟩
  · exact operator_key_not_identity operator (named ▸ identity)
  · exact group kind (Keyed.mem_keys_of_mem inGroup)
  · have notAlias : key ≠ identityAlias := fun same => other (same ▸ by decide)
    rw [nameAfter_of_ne notAlias] at named
    exact other (named ▸ identity)

theorem Apart.not_mem_keys_sources {fields : Document} (apart : Apart fields) {name : String}
    (identity : name ∈ identityNames) (before : List String) :
    name ∉ Keyed.keys (sources before fields) := by
  intro member
  obtain ⟨earlier, key, value, later, rfl, here⟩ := mem_keys_sources_iff.1 member
  obtain ⟨other, group⟩ := apart (key, value) (List.mem_append_right _ List.mem_cons_self)
  have absent := fun kind => group kind name identity
  exact not_mem_keys_entrySources identity other absent _ here

/-- The first field of a level that names the identity is written under the store's
name. -/
theorem sources_first_identity {before : Document} (apart : Apart before) {key : String}
    (identity : key ∈ identityNames) (value : Value) (after : Document) :
    ∃ names, identityField ∈ names ∧
      sources [] (before ++ (key, value) :: after) =
        sources [] before ++ (identityField, .field value) :: sources names after := by
  have absent : identityField ∉ Keyed.keys (sources [] before) :=
    apart.not_mem_keys_sources (by decide) []
  have name : nameAfter (Keyed.keys (sources [] before)) key = identityField := by
    unfold nameAfter
    by_cases general : key = identityAlias
    · exact if_pos ⟨general, absent⟩
    · rw [if_neg fun both => general both.1]
      simpa [identityNames, general] using identity
  have here : entrySources (Keyed.keys (sources [] before)) key value =
      [(identityField, .field value)] := by
    rw [entrySources_of_field (ofKey_identity identity), name]
  refine ⟨Keyed.keys (sources [] before) ++ [identityField],
    List.mem_append_right _ List.mem_cons_self, ?_⟩
  rw [sources_append, sources, List.nil_append, here]
  rfl

/-- Behind the store's name of the identity, both of its names stand as they are. -/
theorem sources_second_identity {names : List String} (written : identityField ∈ names)
    {key : String} (identity : key ∈ identityNames) (before : Document) (value : Value)
    (after : Document) :
    ∃ more, sources names (before ++ (key, value) :: after) =
      sources names before ++ (key, .field value) :: sources more after := by
  have name : nameAfter (names ++ Keyed.keys (sources names before)) key = key :=
    if_neg fun both => both.2 (List.mem_append_left _ written)
  have here : entrySources (names ++ Keyed.keys (sources names before)) key value =
      [(key, .field value)] := by
    rw [entrySources_of_field (ofKey_identity identity), name]
  refine ⟨names ++ Keyed.keys (sources names before) ++ [key], ?_⟩
  rw [sources_append, sources, here]
  rfl

/-- Of two fields that name the identity at one level, the first writes the store's
name and the second its own. -/
theorem get?_lastSources_of_identities {before middle after : Document}
    (apart : Apart (before ++ (middle ++ after))) {firstKey secondKey : String}
    (firstIdentity : firstKey ∈ identityNames) (secondIdentity : secondKey ∈ identityNames)
    (firstValue secondValue : Value)
    {name : String} (identity : name ∈ identityNames) :
    Keyed.get? name (lastSources
        (before ++ (firstKey, firstValue) :: (middle ++ (secondKey, secondValue) :: after))) =
      if secondKey = name then some (.field secondValue)
      else if identityField = name then some (.field firstValue)
      else none := by
  have beforeApart : Apart before := fun entry member =>
    apart entry (List.mem_append_left _ member)
  have middleApart : Apart middle := fun entry member =>
    apart entry (List.mem_append_right _ (List.mem_append_left _ member))
  have afterApart : Apart after := fun entry member =>
    apart entry (List.mem_append_right _ (List.mem_append_right _ member))
  obtain ⟨names, written, first⟩ := sources_first_identity beforeApart firstIdentity firstValue
    (middle ++ (secondKey, secondValue) :: after)
  obtain ⟨more, second⟩ := sources_second_identity written secondIdentity middle secondValue after
  have inBefore : Keyed.get? name (Keyed.ofList (sources [] before)) = none :=
    Keyed.get?_ofList_eq_none (beforeApart.not_mem_keys_sources identity [])
  have inMiddle : Keyed.get? name (Keyed.ofList (sources names middle)) = none :=
    Keyed.get?_ofList_eq_none (middleApart.not_mem_keys_sources identity names)
  have inAfter : Keyed.get? name (Keyed.ofList (sources more after)) = none :=
    Keyed.get?_ofList_eq_none (afterApart.not_mem_keys_sources identity more)
  have single (key : String) (source : Source) :
      Keyed.get? name (Keyed.ofList [(key, source)]) = if key = name then some source else none :=
    rfl
  -- what is written around the two names neither of them, which leaves the two
  rw [lastSources, first, second, Keyed.get?_ofList_append,
    ← List.singleton_append (x := (identityField, _)), Keyed.get?_ofList_append,
    Keyed.get?_ofList_append, ← List.singleton_append (x := (secondKey, _)),
    Keyed.get?_ofList_append, inBefore, inMiddle, inAfter, single, single]
  simp only [Option.none_or, Option.or_none]
  split <;> rfl

theorem apart_of_nodup {before middle after : Document} {first second : String × Value}
    (nodup : (Keyed.keys (before ++ first :: (middle ++ second :: after))).Nodup)
    (cover : ∀ name ∈ identityNames, name = first.1 ∨ name = second.1)
    (groups : ∀ entry ∈ before ++ first :: (middle ++ second :: after),
      ClauseKey.ofKey entry.1 = .likeGroup →
        ∀ name ∈ identityNames, name ∉ Keyed.keys entry.2.fields) :
    Apart (before ++ (middle ++ after)) := by
  have inFront : (before ++ first :: (middle ++ second :: after)).Perm
      (first :: second :: (before ++ (middle ++ after))) := by
    have outer : (before ++ first :: (middle ++ second :: after)).Perm
        (first :: (before ++ middle ++ second :: after)) := by
      rw [List.append_assoc]
      exact List.perm_middle
    have inner : (before ++ middle ++ second :: after).Perm
        (second :: (before ++ (middle ++ after))) := by
      rw [← List.append_assoc]
      exact List.perm_middle
    exact outer.trans (inner.cons first)
  have distinct : (Keyed.keys (first :: second :: (before ++ (middle ++ after)))).Nodup :=
    (inFront.map Prod.fst).nodup_iff.1 nodup
  obtain ⟨notFirst, rest⟩ := List.nodup_cons.1 distinct
  obtain ⟨notSecond, -⟩ := List.nodup_cons.1 rest
  intro entry member
  have known : entry.1 ∈ Keyed.keys (before ++ (middle ++ after)) := List.mem_map_of_mem member
  refine ⟨fun identity => ?_, groups entry (inFront.mem_iff.2 ?_)⟩
  · rcases cover entry.1 identity with same | same
    · exact notFirst (List.mem_cons_of_mem _ (same ▸ known))
    · exact notSecond (same ▸ known)
  · exact List.mem_cons_of_mem _ (List.mem_cons_of_mem _ member)

/-- At a level with one field under each name of the identity, the store's name holds
what its own field asks. The general name holds what its field asks if that field
stands behind the other, and is not written if it stands in front of it. -/
theorem level_identities {context : Context} {criteria : Value} {before after written : Document}
    {identity general : Value}
    (level : Level context criteria (before ++ (identityField, identity) :: after) written)
    (nodup : (Keyed.keys (before ++ (identityField, identity) :: after)).Nodup)
    (groups : ∀ entry ∈ before ++ (identityField, identity) :: after,
      ClauseKey.ofKey entry.1 = .likeGroup →
        ∀ name ∈ identityNames, name ∉ Keyed.keys entry.2.fields) :
    ((identityAlias, general) ∈ after →
        Keyed.get? identityField written =
          some (Expression.lower context identityField (Expression.ofValue identity)).value ∧
        Keyed.get? identityAlias written =
          some (Expression.lower context identityAlias (Expression.ofValue general)).value) ∧
      ((identityAlias, general) ∈ before →
        Keyed.get? identityField written =
          some (Expression.lower context identityField (Expression.ofValue identity)).value ∧
        Keyed.get? identityAlias written = none) := by
  have storeName : identityField ∈ identityNames := by decide
  have generalName : identityAlias ∈ identityNames := by decide
  constructor
  · intro behind
    obtain ⟨middle, last, rfl⟩ := List.append_of_mem behind
    have cover : ∀ name ∈ identityNames, name = identityField ∨ name = identityAlias := by
      decide
    have apart := apart_of_nodup nodup cover groups
    have found (name : String) (named : name ∈ identityNames) :=
      get?_lastSources_of_identities apart storeName generalName identity general named
    rw [level.get?_eq, level.get?_eq, found _ storeName, found _ generalName]
    exact ⟨rfl, rfl⟩
  · intro inFront
    obtain ⟨first, middle, rfl⟩ := List.append_of_mem inFront
    have cover : ∀ name ∈ identityNames, name = identityAlias ∨ name = identityField := by
      decide
    rw [List.append_assoc, List.cons_append] at level nodup groups
    have apart := apart_of_nodup nodup cover groups
    have found (name : String) (named : name ∈ identityNames) :=
      get?_lastSources_of_identities apart generalName storeName general identity named
    rw [level.get?_eq, level.get?_eq, found _ storeName, found _ generalName]
    exact ⟨rfl, rfl⟩

/-- Both conditions of an element of a disjunction in which the store's name stands
first. -/
theorem level_identities_of_store_name_first :
    let context : Context := ⟨Schema.ofList [("id", .integer)], {}⟩
    let element : Document := [("_id", .string "1"), ("name", .null), ("id", .string "2")]
    let criteria : Value := .document [("or", .array [.null, .document element])]
    let written := (whereQuery context (.document element)).value
    Level context criteria element written ∧ (Keyed.keys element).Nodup ∧
      Keyed.get? "_id" written = some (.string "1") ∧
      Keyed.get? "id" written = some (.int32 2) := by
  intro context element criteria written
  have inner : Level context criteria (Value.document element).fields written :=
    .element .whole List.mem_cons_self List.mem_cons_self
      (List.mem_cons_of_mem _ List.mem_cons_self)
  have nodup : (Keyed.keys element).Nodup := by decide
  have groups : ∀ entry ∈ element, ClauseKey.ofKey entry.1 = .likeGroup →
      ∀ name ∈ identityNames, name ∉ Keyed.keys entry.2.fields := by
    intro entry member kind
    have fields : ∀ key ∈ Keyed.keys element, ClauseKey.ofKey key ≠ .likeGroup := by decide
    exact absurd kind (fields entry.1 (List.mem_map_of_mem member))
  have atFront : element =
      [] ++ (identityField, .string "1") :: [("name", .null), ("id", .string "2")] := rfl
  have both := (level_identities (atFront ▸ inner) (atFront ▸ nodup) (atFront ▸ groups)).1
    (List.mem_cons_of_mem _ List.mem_cons_self)
  exact ⟨inner, nodup, both⟩

/-- A field under the store's name is written over the general name in front of it, so
that its condition is lost. -/
theorem level_drops_general_name_first :
    let context : Context := ⟨Schema.empty, {}⟩
    let written :=
      (whereQuery context (.document [("id", .int32 1), ("_id", .int32 2)])).value
    ¬(Keyed.get? identityField written =
        some (Expression.lower context identityField (Expression.ofValue (.int32 2))).value ∧
      Keyed.get? identityAlias written =
        some (Expression.lower context identityAlias (Expression.ofValue (.int32 1))).value) := by
  rintro context written ⟨-, general⟩
  have lost : Keyed.get? identityAlias written = none := rfl
  rw [lost] at general
  cases general

end Criteria.Clause
