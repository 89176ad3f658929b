namespace Criteria

/-! ## Declared types of fields -/

/-- The declared type of a field. Only the first six steer a query; every
other name is kept as it is. -/
inductive FieldType
  | string
  | integer
  | float
  | date
  | datetime
  | boolean
  | other (name : String)
deriving DecidableEq, Repr

namespace FieldType

def ofText (name : String) : FieldType :=
  if name = "string" then string
  else if name = "integer" then integer
  else if name = "float" then float
  else if name = "date" then date
  else if name = "datetime" then datetime
  else if name = "boolean" then boolean
  else other name

def text : FieldType → String
  | string => "string"
  | integer => "integer"
  | float => "float"
  | date => "date"
  | datetime => "datetime"
  | boolean => "boolean"
  | other name => name

end FieldType

/-! ## Schemas -/

/-- Entries in the order of their names, each name once. -/
def NamesAscend (entries : List (String × FieldType)) : Prop :=
  entries.Pairwise fun earlier later => earlier.1 < later.1

/-- The declared types of some fields, ordered by the names of the fields. -/
structure Schema where
  entries : List (String × FieldType)
  ascend : NamesAscend entries

namespace Schema

/-- Puts an entry in its place, or over the entry of the same name. -/
def place (name : String) (type : FieldType) :
    List (String × FieldType) → List (String × FieldType)
  | [] => [(name, type)]
  | (first, old) :: rest =>
    if name < first then (name, type) :: (first, old) :: rest
    else if name = first then (name, type) :: rest
    else (first, old) :: place name type rest

theorem name_of_mem_place {name : String} {type : FieldType}
    {entries : List (String × FieldType)} {entry : String × FieldType}
    (member : entry ∈ place name type entries) :
    entry = (name, type) ∨ entry ∈ entries := by
  induction entries with
  | nil => simpa [place] using member
  | cons head rest ih =>
      obtain ⟨first, old⟩ := head
      unfold place at member
      split at member
      · simpa using member
      · split at member
        · rcases List.mem_cons.1 member with here | there
          · exact Or.inl here
          · exact Or.inr (List.mem_cons_of_mem _ there)
        · rcases List.mem_cons.1 member with here | there
          · exact Or.inr (here ▸ List.mem_cons_self)
          · exact (ih there).imp id (List.mem_cons_of_mem _)

theorem namesAscend_place {name : String} {type : FieldType}
    {entries : List (String × FieldType)} (ascend : NamesAscend entries) :
    NamesAscend (place name type entries) := by
  induction entries with
  | nil => simp [place, NamesAscend]
  | cons head rest ih =>
      obtain ⟨first, old⟩ := head
      obtain ⟨firstLeast, restAscend⟩ := List.pairwise_cons.1 ascend
      unfold place
      split
      · rename_i before
        refine List.pairwise_cons.2 ⟨?_, ascend⟩
        intro entry member
        rcases List.mem_cons.1 member with rfl | later
        · exact before
        · exact String.lt_trans before (firstLeast entry later)
      · split
        · rename_i same
          exact List.pairwise_cons.2
            ⟨fun entry member => same ▸ firstLeast entry member, restAscend⟩
        · rename_i notBefore different
          refine List.pairwise_cons.2 ⟨?_, ih restAscend⟩
          intro entry member
          rcases name_of_mem_place member with rfl | old
          · exact String.not_le.1 fun atMost =>
              different (String.le_antisymm atMost (String.not_lt.1 notBefore))
          · exact firstLeast entry old

def empty : Schema := ⟨[], List.Pairwise.nil⟩

def declare (schema : Schema) (name : String) (type : FieldType) : Schema :=
  ⟨place name type schema.entries, namesAscend_place schema.ascend⟩

/-- The schema of some declarations; the last one of a field counts. -/
def ofList (declarations : List (String × FieldType)) : Schema :=
  declarations.foldl (fun schema entry => schema.declare entry.1 entry.2) empty

def type? (schema : Schema) (name : String) : Option FieldType :=
  schema.entries.lookup name

def declares (schema : Schema) (name : String) : Bool :=
  (schema.type? name).isSome

end Schema

end Criteria
