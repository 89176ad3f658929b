import Criteria.Keyed

namespace Criteria.Keyed

variable {α β : Type}

/-! ## Laws of insertion -/

theorem contains_iff_mem_keys (entries : Keyed α) (key : String) :
    entries.contains key = true ↔ key ∈ entries.keys := by
  induction entries with
  | nil => simp [contains, get?, keys]
  | cons entry rest ih =>
      obtain ⟨name, value⟩ := entry
      by_cases same : name = key
      · simp [contains, get?, keys, same]
      · have other : key ≠ name := Ne.symm same
        simpa [contains, get?, keys, same, other] using ih

theorem insert_of_not_mem {entries : Keyed α} {key : String}
    (fresh : key ∉ entries.keys) (value : α) :
    entries.insert key value = entries ++ [(key, value)] := by
  induction entries with
  | nil => rfl
  | cons entry rest ih =>
      obtain ⟨name, old⟩ := entry
      have different : name ≠ key := by
        intro same
        exact fresh (same ▸ List.mem_cons_self)
      have freshRest : key ∉ keys rest := fun member =>
        fresh (List.mem_cons_of_mem name member)
      rw [insert, if_neg different, ih freshRest, List.cons_append]

theorem eq_or_mem_of_mem_insert {entries : Keyed α} {key : String} {value : α}
    {entry : String × α} (member : entry ∈ entries.insert key value) :
    entry = (key, value) ∨ entry ∈ entries := by
  induction entries with
  | nil => exact Or.inl (List.mem_singleton.1 member)
  | cons head rest ih =>
      obtain ⟨name, old⟩ := head
      rw [insert] at member
      split at member
      · rename_i same
        rcases List.mem_cons.1 member with here | later
        · exact Or.inl (same ▸ here)
        · exact Or.inr (List.mem_cons_of_mem _ later)
      · rcases List.mem_cons.1 member with here | later
        · exact Or.inr (here ▸ List.mem_cons_self)
        · exact (ih later).imp id (List.mem_cons_of_mem _)

theorem nodup_keys_insert {entries : Keyed α} (nodup : entries.keys.Nodup)
    (key : String) (value : α) : (entries.insert key value).keys.Nodup := by
  rw [keys_insert]
  by_cases known : key ∈ entries.keys
  · rw [if_pos known]
    exact nodup
  · rw [if_neg known]
    refine List.nodup_append.2 ⟨nodup, List.pairwise_singleton _ key, ?_⟩
    intro name member other singleton same
    exact known (List.mem_singleton.1 singleton ▸ same ▸ member)

theorem keys_append (first second : Keyed α) :
    keys (first ++ second) = first.keys ++ second.keys :=
  List.map_append

theorem insertAll_append (entries first second : Keyed α) :
    entries.insertAll (first ++ second) = (entries.insertAll first).insertAll second :=
  List.foldl_append

theorem nodup_keys_insertAll {entries : Keyed α} (nodup : entries.keys.Nodup)
    (more : Keyed α) : (entries.insertAll more).keys.Nodup := by
  induction more generalizing entries with
  | nil => exact nodup
  | cons entry rest ih => exact ih (nodup_keys_insert nodup entry.1 entry.2)

theorem nodup_keys_ofList (entries : List (String × α)) : (ofList entries).keys.Nodup := by
  have empty : (keys ([] : Keyed α)).Nodup := List.Pairwise.nil
  exact nodup_keys_insertAll empty entries

theorem mem_keys_insertAll (entries more : Keyed α) (key : String) :
    key ∈ (entries.insertAll more).keys ↔ key ∈ entries.keys ∨ key ∈ more.keys := by
  induction more generalizing entries with
  | nil => simp [insertAll, keys]
  | cons entry rest ih =>
      have inserted : key ∈ (entries.insert entry.1 entry.2).keys ↔
          key ∈ entries.keys ∨ key = entry.1 := by
        rw [keys_insert]
        by_cases known : entry.1 ∈ entries.keys
        · rw [if_pos known]
          refine ⟨Or.inl, ?_⟩
          rintro (member | rfl)
          · exact member
          · exact known
        · rw [if_neg known, List.mem_append, List.mem_singleton]
      have later := ih (entries.insert entry.1 entry.2)
      rw [inserted, or_assoc] at later
      exact later.trans (or_congr_right List.mem_cons.symm)

theorem mem_or_mem_of_mem_insertAll {entries more : Keyed α} {entry : String × α}
    (member : entry ∈ entries.insertAll more) : entry ∈ entries ∨ entry ∈ more := by
  induction more generalizing entries with
  | nil => exact Or.inl member
  | cons head rest ih =>
      rcases ih member with before | later
      · rcases eq_or_mem_of_mem_insert before with here | old
        · exact Or.inr (here ▸ List.mem_cons_self)
        · exact Or.inl old
      · exact Or.inr (List.mem_cons_of_mem _ later)

/-- Entries under names of their own are written one behind the other. -/
theorem insertAll_of_nodup {entries more : Keyed α}
    (nodup : (entries.keys ++ more.keys).Nodup) :
    entries.insertAll more = entries ++ more := by
  induction more generalizing entries with
  | nil => exact (List.append_nil entries).symm
  | cons entry rest ih =>
      obtain ⟨key, value⟩ := entry
      have fresh : key ∉ entries.keys := by
        intro member
        exact (List.nodup_append.1 nodup).2.2 key member key List.mem_cons_self rfl
      have written : entries.insert key value = entries ++ [(key, value)] :=
        insert_of_not_mem fresh value
      have nodupRest : (keys (entries ++ [(key, value)]) ++ keys rest).Nodup := by
        simpa [keys] using nodup
      calc
        entries.insertAll ((key, value) :: rest)
            = (entries ++ [(key, value)]).insertAll rest := by
              rw [← written]
              rfl
        _ = entries ++ (key, value) :: rest := by
              rw [ih nodupRest, List.append_assoc, List.singleton_append]

theorem mem_of_mem_ofList {entries : List (String × α)} {entry : String × α}
    (member : entry ∈ ofList entries) : entry ∈ entries :=
  (mem_or_mem_of_mem_insertAll member).resolve_left List.not_mem_nil

/-- Entries with distinct names already are a record. -/
theorem ofList_of_nodup {entries : Keyed α} (nodup : entries.keys.Nodup) :
    ofList entries = entries :=
  insertAll_of_nodup nodup

/-! ## Looking up names that stand once -/

theorem mem_keys_of_mem {entries : Keyed α} {key : String} {value : α}
    (member : (key, value) ∈ entries) : key ∈ entries.keys :=
  List.mem_map_of_mem member

theorem get?_eq_some_iff {entries : Keyed α} (nodup : entries.keys.Nodup) (key : String)
    (value : α) : get? key entries = some value ↔ (key, value) ∈ entries := by
  induction entries with
  | nil => simp [get?]
  | cons entry rest ih =>
      obtain ⟨name, first⟩ := entry
      obtain ⟨fresh, restNodup⟩ := List.nodup_cons.1 nodup
      by_cases same : name = key
      · subst same
        have absent : (name, value) ∉ rest := fun later => fresh (mem_keys_of_mem later)
        simp [get?, absent, eq_comm]
      · simp [get?, same, Ne.symm same, ih restNodup]

theorem eq_of_mem_of_mem {entries : Keyed α} (nodup : entries.keys.Nodup) {key : String}
    {first second : α} (firstMember : (key, first) ∈ entries)
    (secondMember : (key, second) ∈ entries) : first = second := by
  have found := (get?_eq_some_iff nodup key first).2 firstMember
  rw [(get?_eq_some_iff nodup key second).2 secondMember] at found
  exact (Option.some.inj found).symm

theorem get?_append (first second : Keyed α) (key : String) :
    get? key (first ++ second) = (get? key first).or (get? key second) := by
  induction first with
  | nil => rfl
  | cons entry rest ih =>
      by_cases here : entry.1 = key
      · simp [get?, here]
      · simp only [List.cons_append, get?, if_neg here, ih]

/-- Of several entries under one name an insertion leaves the last. -/
theorem get?_insertAll (entries more : Keyed α) (key : String) :
    get? key (entries.insertAll more) = (get? key more.reverse).or (get? key entries) := by
  induction more generalizing entries with
  | nil => rfl
  | cons entry rest ih =>
      have inserted : entries.insertAll (entry :: rest) =
          (entries.insert entry.1 entry.2).insertAll rest := rfl
      rw [inserted, ih, get?_insert, List.reverse_cons, get?_append, Option.or_assoc]
      by_cases here : entry.1 = key <;> simp [get?, here]

/-- The last entry with a name gives its value. -/
theorem get?_ofList (entries : List (String × α)) (key : String) :
    get? key (ofList entries) = get? key entries.reverse := by
  rw [ofList, get?_insertAll]
  exact Option.or_none

theorem get?_ofList_append (first second : List (String × α)) (key : String) :
    get? key (ofList (first ++ second)) =
      (get? key (ofList second)).or (get? key (ofList first)) := by
  rw [get?_ofList, get?_ofList, get?_ofList, List.reverse_append, get?_append]

theorem get?_eq_none_of_not_mem {entries : Keyed α} {key : String}
    (absent : key ∉ entries.keys) : get? key entries = none := by
  cases found : get? key entries with
  | none => rfl
  | some value =>
      have known : entries.contains key = true := by rw [contains, found, Option.isSome_some]
      exact absurd ((contains_iff_mem_keys entries key).1 known) absent

theorem get?_ofList_eq_none {entries : Keyed α} {key : String} (absent : key ∉ entries.keys) :
    get? key (ofList entries) = none := by
  refine get?_eq_none_of_not_mem fun member => ?_
  rcases (mem_keys_insertAll [] entries key).1 member with before | later
  · exact List.not_mem_nil before
  · exact absent later

/-! ## Names in the order in which they first come up -/

/-- Insertion adds the names that are new, each behind those that came up before
it. -/
theorem keys_insertAll (entries more : Keyed α) :
    (entries.insertAll more).keys =
      entries.keys ++ (more.keys.removeAll entries.keys).eraseDups := by
  induction more generalizing entries with
  | nil => simp [insertAll, keys, List.removeAll]
  | cons entry rest ih =>
      obtain ⟨key, value⟩ := entry
      have inserted : entries.insertAll ((key, value) :: rest) =
          (entries.insert key value).insertAll rest := rfl
      have names : keys ((key, value) :: rest) = key :: keys rest := rfl
      rw [inserted, ih, keys_insert, names]
      by_cases known : key ∈ entries.keys
      · rw [if_pos known]
        simp [List.removeAll, known]
      · have later : (keys rest).removeAll (entries.keys ++ [key]) =
            ((keys rest).removeAll entries.keys).filter fun name => !name == key := by
          rw [List.removeAll, List.removeAll, List.filter_filter]
          refine List.filter_congr fun name _ => ?_
          by_cases same : name = key <;> simp [same]
        have fresh : (key :: keys rest).removeAll entries.keys =
            key :: (keys rest).removeAll entries.keys := by
          simp [List.removeAll, known]
        rw [if_neg known, later, fresh, List.eraseDups_cons, List.append_assoc,
          List.singleton_append]

/-- The names stand in the order in which they come first. -/
theorem keys_ofList (entries : List (String × α)) :
    (ofList entries).keys = (keys entries).eraseDups := by
  have kept : (keys entries).removeAll [] = keys entries := by
    simp [List.removeAll]
  rw [ofList, keys_insertAll]
  exact congrArg List.eraseDups kept

/-- A look-up finds the first entry under its name. -/
theorem get?_eq_some_iff_append (entries : Keyed α) (key : String) (value : α) :
    get? key entries = some value ↔
      ∃ earlier later, entries = earlier ++ (key, value) :: later ∧ key ∉ keys earlier := by
  constructor
  · intro found
    induction entries with
    | nil => cases found
    | cons entry rest ih =>
        obtain ⟨name, first⟩ := entry
        by_cases same : name = key
        · rw [get?, if_pos same] at found
          refine ⟨[], rest, ?_, List.not_mem_nil⟩
          rw [same, Option.some.inj found, List.nil_append]
        · rw [get?, if_neg same] at found
          obtain ⟨earlier, later, rfl, absent⟩ := ih found
          refine ⟨(name, first) :: earlier, later, rfl, ?_⟩
          rintro (_ | ⟨_, member⟩)
          · exact same rfl
          · exact absent member
  · rintro ⟨earlier, later, rfl, absent⟩
    rw [get?_append, get?_eq_none_of_not_mem absent, Option.none_or, get?, if_pos rfl]

/-- Of several entries under one name a record holds the last. -/
theorem mem_ofList_iff (entries : List (String × α)) (key : String) (value : α) :
    (key, value) ∈ ofList entries ↔
      ∃ earlier later, entries = earlier ++ (key, value) :: later ∧ key ∉ keys later := by
  rw [← get?_eq_some_iff (nodup_keys_ofList entries), get?_ofList, get?_eq_some_iff_append]
  constructor
  · rintro ⟨later, earlier, reversed, absent⟩
    refine ⟨earlier.reverse, later.reverse, ?_, ?_⟩
    · rw [← List.reverse_reverse entries, reversed]
      simp
    · simpa [keys] using absent
  · rintro ⟨earlier, later, rfl, absent⟩
    refine ⟨later.reverse, earlier.reverse, ?_, ?_⟩
    · simp
    · simpa [keys] using absent

/-! ## Entries with changed values -/

/-- Every value replaced by what is said of its name and itself. -/
def mapEntries (change : String → α → β) (entries : Keyed α) : Keyed β :=
  entries.map fun entry => (entry.1, change entry.1 entry.2)

@[simp]
theorem keys_mapEntries (change : String → α → β) (entries : Keyed α) :
    (entries.mapEntries change).keys = entries.keys := by
  simp [mapEntries, keys]

theorem mem_mapEntries {change : String → α → β} {entries : Keyed α} {key : String}
    {value : β} : (key, value) ∈ entries.mapEntries change ↔
      ∃ source, (key, source) ∈ entries ∧ change key source = value := by
  constructor
  · intro member
    obtain ⟨entry, original, same⟩ := List.mem_map.1 member
    obtain ⟨rfl, rfl⟩ := Prod.mk.inj same
    exact ⟨entry.2, original, rfl⟩
  · rintro ⟨source, original, rfl⟩
    exact List.mem_map.2 ⟨(key, source), original, rfl⟩

theorem get?_mapEntries (change : String → α → β) (entries : Keyed α) (key : String) :
    get? key (entries.mapEntries change) = (get? key entries).map (change key) := by
  induction entries with
  | nil => rfl
  | cons entry rest ih =>
      obtain ⟨name, value⟩ := entry
      by_cases same : name = key
      · simp [mapEntries, get?, same]
      · have restChanged := ih
        simp only [mapEntries] at restChanged
        simp [mapEntries, get?, same, restChanged]

theorem mapEntries_append (change : String → α → β) (first second : Keyed α) :
    mapEntries change (first ++ second) =
      mapEntries change first ++ mapEntries change second :=
  List.map_append

theorem mapEntries_insert (change : String → α → β) (entries : Keyed α)
    (key : String) (value : α) :
    (entries.insert key value).mapEntries change =
      (entries.mapEntries change).insert key (change key value) := by
  induction entries with
  | nil => rfl
  | cons entry rest ih =>
      obtain ⟨name, old⟩ := entry
      by_cases same : name = key
      · simp [mapEntries, insert, same]
      · have restChanged := ih
        simp only [mapEntries] at restChanged
        simp [mapEntries, insert, same, restChanged]

theorem mapEntries_insertAll (change : String → α → β) (entries more : Keyed α) :
    (entries.insertAll more).mapEntries change =
      (entries.mapEntries change).insertAll (more.mapEntries change) := by
  induction more generalizing entries with
  | nil => rfl
  | cons entry rest ih =>
      have restChanged := ih (entries.insert entry.1 entry.2)
      rw [mapEntries_insert] at restChanged
      exact restChanged

/-- Values may be changed before a record is built or after. -/
theorem mapEntries_ofList (change : String → α → β) (entries : Keyed α) :
    (ofList entries).mapEntries change = ofList (entries.mapEntries change) :=
  mapEntries_insertAll change [] entries

end Criteria.Keyed
