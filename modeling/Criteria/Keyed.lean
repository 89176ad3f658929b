namespace Criteria

/-! ## Ordered entries

Named values in the order in which their names first came up. -/

/-- Entries of one record, each under its name. -/
abbrev Keyed (α : Type) := List (String × α)

namespace Keyed

variable {α β : Type}

def get? (key : String) : Keyed α → Option α
  | [] => none
  | (name, value) :: rest => if name = key then some value else get? key rest

def contains (entries : Keyed α) (key : String) : Bool :=
  (get? key entries).isSome

def keys (entries : Keyed α) : List String :=
  entries.map Prod.fst

/-- A name already present keeps its place and takes the new value; a new
name goes last. -/
def insert : Keyed α → String → α → Keyed α
  | [], key, value => [(key, value)]
  | (name, old) :: rest, key, value =>
    if name = key then (name, value) :: rest
    else (name, old) :: insert rest key value

def insertAll (entries more : Keyed α) : Keyed α :=
  more.foldl (fun built entry => built.insert entry.1 entry.2) entries

/-- A record built from entries that may repeat a name. -/
def ofList (entries : List (String × α)) : Keyed α :=
  insertAll [] entries

/-! ### How insertion changes a look-up -/

theorem get?_insert (entries : Keyed α) (key : String) (value : α) (name : String) :
    get? name (entries.insert key value) =
      if key = name then some value else get? name entries := by
  induction entries with
  | nil => simp [insert, get?]
  | cons entry rest ih =>
      obtain ⟨first, old⟩ := entry
      by_cases same : first = key
      · subst same
        by_cases hit : first = name <;> simp [insert, get?, hit]
      · by_cases hit : first = name
        · subst hit
          simp [insert, get?, same, Ne.symm same]
        · simp [insert, get?, same, hit, ih]

theorem keys_insert (entries : Keyed α) (key : String) (value : α) :
    (entries.insert key value).keys =
      if key ∈ entries.keys then entries.keys else entries.keys ++ [key] := by
  induction entries with
  | nil => simp [insert, keys]
  | cons entry rest ih =>
      obtain ⟨first, old⟩ := entry
      by_cases same : first = key
      · subst same
        simp [insert, keys]
      · simp only [insert, if_neg same, keys, List.map_cons, List.mem_cons,
          Ne.symm same, false_or] at ih ⊢
        rw [ih]
        split <;> rename_i known <;> simp [known]

end Keyed

end Criteria
