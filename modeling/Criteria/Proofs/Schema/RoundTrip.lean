import Criteria.Proofs.Json.Compact
import Criteria.Schema.Text
import Mathlib.Data.List.Perm.Basic

/-!
# Schemas written and read back

Names and types are arbitrary text, so the text of a schema may hold any escape. What
makes the text canonical is that a type never hides a recognised name under `other`, and
that entries ascend by their names.
-/

namespace Criteria

namespace FieldType

/-- The names that a type other than `other` has. -/
def recognised : List String :=
  ["string", "integer", "float", "date", "datetime", "boolean"]

/-- A type keeps the name that it was read from. -/
theorem text_ofText (name : String) : (ofText name).text = name := by
  unfold ofText
  split_ifs <;> simp [text, *]

theorem not_mem_recognised_of_ofText_eq_other {written name : String}
    (other : ofText written = .other name) : name ∉ recognised := by
  unfold ofText at other
  split_ifs at other with string integer float date datetime boolean
  cases other
  simp [recognised, string, integer, float, date, datetime, boolean]

end FieldType

namespace Schema

/-! ## Entries in their order -/

theorem lookup_eq_some_iff {entries : List (String × FieldType)} (ascend : NamesAscend entries)
    (name : String) (type : FieldType) :
    entries.lookup name = some type ↔ (name, type) ∈ entries := by
  induction entries with
  | nil => simp
  | cons head rest ih =>
      obtain ⟨first, old⟩ := head
      obtain ⟨firstLeast, restAscend⟩ := List.pairwise_cons.1 ascend
      by_cases same : name = first
      · subst same
        have absent : (name, type) ∉ rest := fun member =>
          absurd (firstLeast _ member) (String.lt_irrefl name)
        simp [absent, eq_comm]
      · have different : (name == first) = false := beq_eq_false_iff_ne.2 same
        simp [List.lookup_cons, different, ih restAscend, same]

/-- A schema is determined by what it says of each name. -/
theorem eq_of_type?_eq {schema other : Schema}
    (same : ∀ name, schema.type? name = other.type? name) : schema = other := by
  obtain ⟨entries, ascend⟩ := schema
  obtain ⟨others, othersAscend⟩ := other
  have members : ∀ entry, entry ∈ entries ↔ entry ∈ others := by
    rintro ⟨name, type⟩
    rw [← lookup_eq_some_iff ascend, ← lookup_eq_some_iff othersAscend]
    exact Eq.congr_left (same name)
  have nodup : ∀ {entries : List (String × FieldType)}, NamesAscend entries → entries.Nodup := by
    intro entries ascend
    refine ascend.imp ?_
    rintro earlier later before rfl
    exact String.lt_irrefl _ before
  have perm : entries.Perm others :=
    (List.perm_ext_iff_of_nodup (nodup ascend) (nodup othersAscend)).2 members
  have equal : entries = others := by
    refine perm.eq_of_pairwise ?_ ascend othersAscend
    intro first second _ _ before after
    exact absurd (String.lt_trans before after) (String.lt_irrefl _)
  subst equal
  rfl

/-- A name behind all others is put last. -/
theorem place_of_last {name : String} {type : FieldType} {entries : List (String × FieldType)}
    (last : ∀ entry ∈ entries, entry.1 < name) :
    place name type entries = entries ++ [(name, type)] := by
  induction entries with
  | nil => rfl
  | cons head rest ih =>
      obtain ⟨first, old⟩ := head
      have before : first < name := last _ List.mem_cons_self
      have notBefore : ¬name < first := String.lt_asymm before
      have different : name ≠ first := by
        rintro rfl
        exact String.lt_irrefl _ before
      rw [place, if_neg notBefore, if_neg different,
        ih fun entry member => last entry (List.mem_cons_of_mem _ member), List.cons_append]

/-- Entries that ascend are declared one behind the other. -/
theorem ofList_entries (schema : Schema) : ofList schema.entries = schema := by
  have declared : ∀ (entries : List (String × FieldType)) (before : Schema),
      NamesAscend (before.entries ++ entries) →
      (entries.foldl (fun built entry => built.declare entry.1 entry.2) before).entries =
        before.entries ++ entries := by
    intro entries
    induction entries with
    | nil =>
        intro before _
        exact (List.append_nil _).symm
    | cons head rest ih =>
        intro before ascend
        have last : ∀ entry ∈ before.entries, entry.1 < head.1 := fun entry member =>
          (List.pairwise_append.1 ascend).2.2 entry member head List.mem_cons_self
        have here : (before.declare head.1 head.2).entries = before.entries ++ [head] :=
          place_of_last last
        have split : before.entries ++ head :: rest =
            (before.declare head.1 head.2).entries ++ rest := by
          rw [here, List.append_assoc, List.singleton_append]
        rw [split] at ascend ⊢
        exact ih _ ascend
  have back : (ofList schema.entries).entries = schema.entries :=
    declared schema.entries empty schema.ascend
  apply eq_of_type?_eq
  intro name
  rw [type?, type?, back]

theorem mem_of_mem_ofList {declarations : List (String × FieldType)}
    {entry : String × FieldType} (member : entry ∈ (ofList declarations).entries) :
    entry ∈ declarations := by
  have kept : ∀ (entries : List (String × FieldType)) (before : Schema),
      entry ∈ (entries.foldl (fun built next => built.declare next.1 next.2) before).entries →
      entry ∈ before.entries ∨ entry ∈ entries := by
    intro entries
    induction entries with
    | nil =>
        intro before here
        exact Or.inl here
    | cons head rest ih =>
        intro before here
        rcases ih _ here with earlier | later
        · rcases name_of_mem_place earlier with rfl | old
          · exact Or.inr List.mem_cons_self
          · exact Or.inl old
        · exact Or.inr (List.mem_cons_of_mem _ later)
  exact (kept declarations empty member).resolve_left List.not_mem_nil

/-! ## Reading a schema back -/

/-- The term that the descriptor of a type is written as. -/
def descriptorTerm (type : FieldType) : JsonTerm :=
  .object [(JsonPiece.ofText typeKey, .string (JsonPiece.ofText type.text))]

def term (schema : Schema) : JsonTerm :=
  .object (schema.entries.map fun entry => (JsonPiece.ofText entry.1, descriptorTerm entry.2))

/-- The text of a schema is read off as its term. -/
theorem readOff_term (schema : Schema) (room : Nat) :
    JsonTerm.ReadOff (room + 2) schema.toJson schema.term := by
  have named : ∀ type : FieldType, JsonTerm.ReadOffMembers room [(typeKey, .string type.text)]
      [(JsonPiece.ofText typeKey, .string (JsonPiece.ofText type.text))] := fun type =>
    List.Forall₂.cons ⟨rfl, JsonTerm.readOff_string room type.text⟩ List.Forall₂.nil
  apply JsonTerm.readOff_object
  unfold JsonTerm.ReadOffMembers
  rw [List.forall₂_map_left_iff, List.forall₂_map_right_iff, List.forall₂_same]
  intro entry _
  exact ⟨rfl, JsonTerm.readOff_object (named entry.2)⟩

theorem named?_map {α : Type} (values : List α) (name : α → String) (term : α → JsonTerm) :
    named? (values.map fun value => (JsonPiece.ofText (name value), term value)) =
      some (values.map fun value => (name value, term value)) := by
  rw [named?, List.mapM_map]
  induction values with
  | nil => rfl
  | cons value rest ih => simp [List.mapM_cons, JsonPiece.string?_ofText, ih]

theorem descriptor?_descriptorTerm (type : FieldType) :
    descriptor? (descriptorTerm type) = some (FieldType.ofText type.text) := by
  have named := named?_map [type] (fun _ => typeKey) fun type =>
    .string (JsonPiece.ofText type.text)
  simp only [List.map_cons, List.map_nil] at named
  simp [descriptor?, descriptorTerm, named, typeName?, JsonPiece.string?_ofText]

theorem declarations?_term {schema : Schema}
    (plain : ∀ entry ∈ schema.entries, FieldType.ofText entry.2.text = entry.2) :
    declarations? schema.term = some schema.entries := by
  have described : ∀ entries : List (String × FieldType),
      (∀ entry ∈ entries, FieldType.ofText entry.2.text = entry.2) →
      (entries.map fun entry => (entry.1, descriptorTerm entry.2)).mapM
        (fun entry => (descriptor? entry.2).map (entry.1, ·)) = some entries := by
    intro entries plain
    induction entries with
    | nil => rfl
    | cons entry rest ih =>
        have read := plain entry List.mem_cons_self
        have more := ih fun other member => plain other (List.mem_cons_of_mem _ member)
        simp [List.mapM_cons, descriptor?_descriptorTerm, read, more]
  have named := named?_map schema.entries Prod.fst fun entry => descriptorTerm entry.2
  rw [term, declarations?, named]
  exact described schema.entries plain

/-- A schema is read back if no type has the name of another. -/
theorem ofText?_text_of_plain {schema : Schema}
    (plain : ∀ entry ∈ schema.entries, FieldType.ofText entry.2.text = entry.2) :
    ofText? schema.text = some schema := by
  have braces : ∀ members : List (String × Json), 2 ≤ (Json.compact (.object members)).length := by
    intro members
    cases members with
    | nil => exact Nat.le_refl 2
    | cons entry more =>
        obtain ⟨name, value⟩ := entry
        simp [Json.compact, Json.quote]
  have long : 2 ≤ schema.text.length := by
    rw [text, Json.compactText, String.length_ofList]
    exact braces _
  obtain ⟨room, enough⟩ := Nat.exists_eq_add_of_le' long
  have read : JsonTerm.ofText? schema.text.length schema.text = some schema.term := by
    rw [enough]
    exact JsonTerm.ofText?_of_readOff (readOff_term schema room)
  rw [ofText?, read, Option.bind_some, declarations?_term plain, Option.map_some,
    ofList_entries]

/-! ## The schemas of a program -/

/-- The schemas that a program can come by: read from a text, or collected from names
and type names. -/
inductive Obtained : Schema → Prop
  | read {text : String} {schema : Schema} (accepted : ofText? text = some schema) :
      Obtained schema
  | collected (pairs : List (String × String)) :
      Obtained (ofList (pairs.map fun pair => (pair.1, FieldType.ofText pair.2)))

theorem typeName?_eq_some {term : JsonTerm} {type : FieldType} (read : typeName? term = some type) :
    ∃ name, FieldType.ofText name = type := by
  cases term with
  | string pieces =>
      obtain ⟨name, _, rfl⟩ := Option.map_eq_some_iff.1 read
      exact ⟨name, rfl⟩
  | _ => cases read

theorem descriptor?_eq_some {term : JsonTerm} {type : FieldType}
    (read : descriptor? term = some type) : ∃ name, FieldType.ofText name = type := by
  unfold descriptor? at read
  split at read
  · obtain ⟨attributes, _, read⟩ := Option.bind_eq_some_iff.1 read
    split at read
    · exact typeName?_eq_some read
    · cases read
  · exact typeName?_eq_some read
  · cases read

theorem mem_of_declarations? {term : JsonTerm} {declarations : List (String × FieldType)}
    (read : declarations? term = some declarations) {entry : String × FieldType}
    (member : entry ∈ declarations) : ∃ name, FieldType.ofText name = entry.2 := by
  -- the names are read before, so only the descriptors count here
  have each : ∀ (descriptors : List (String × JsonTerm)) (declared : List (String × FieldType)),
      descriptors.mapM (fun entry => (descriptor? entry.2).map (entry.1, ·)) = some declared →
      entry ∈ declared → ∃ name, FieldType.ofText name = entry.2 := by
    intro descriptors
    induction descriptors with
    | nil =>
        intro declared read member
        cases read
        cases member
    | cons first rest ih =>
        intro declared read member
        rw [List.mapM_cons] at read
        obtain ⟨head, readHead, read⟩ := Option.bind_eq_some_iff.1 read
        obtain ⟨tail, readTail, read⟩ := Option.bind_eq_some_iff.1 read
        obtain rfl := Option.some.inj read
        rcases List.mem_cons.1 member with rfl | later
        · obtain ⟨type, readType, same⟩ := Option.map_eq_some_iff.1 readHead
          rw [← same]
          exact descriptor?_eq_some readType
        · exact ih tail readTail later
  cases term with
  | object members =>
      obtain ⟨descriptors, _, read⟩ := Option.bind_eq_some_iff.1 read
      exact each descriptors declarations read member
  | _ => cases read

/-- The types of a schema that was come by are read from names. -/
theorem Obtained.mem {schema : Schema} (obtained : Obtained schema)
    {entry : String × FieldType} (member : entry ∈ schema.entries) :
    ∃ name, FieldType.ofText name = entry.2 := by
  cases obtained with
  | read accepted =>
      obtain ⟨declarations, declared, rfl⟩ := Option.map_eq_some_iff.1 accepted
      obtain ⟨term, _, read⟩ := Option.bind_eq_some_iff.1 declared
      exact mem_of_declarations? read (mem_of_mem_ofList member)
  | collected pairs =>
      obtain ⟨pair, _, rfl⟩ := List.mem_map.1 (mem_of_mem_ofList member)
      exact ⟨pair.2, rfl⟩

theorem Obtained.ofText?_text {schema : Schema} (obtained : Obtained schema) :
    ofText? schema.text = some schema := by
  apply ofText?_text_of_plain
  intro entry member
  obtain ⟨name, type⟩ := obtained.mem member
  rw [← type, FieldType.text_ofText]

/-- A schema is read back from its compact text, and the text is one for all schemas that
say the same of every name. No type hides a recognised name. -/
theorem text_canonical {schema : Schema} (obtained : Obtained schema) :
    ofText? schema.text = some schema ∧
      (∀ other, Obtained other →
        (schema.text = other.text ↔
          ∀ name, schema.declares name = other.declares name ∧
            schema.type? name = other.type? name)) ∧
      ∀ name hidden, schema.type? name = some (.other hidden) →
        hidden ∉ FieldType.recognised := by
  refine ⟨obtained.ofText?_text, ?_, ?_⟩
  · intro other otherObtained
    constructor
    · intro sameText name
      have same : schema = other := by
        apply Option.some.inj
        rw [← obtained.ofText?_text, ← otherObtained.ofText?_text, sameText]
      rw [same]
      exact ⟨rfl, rfl⟩
    · intro agree
      rw [eq_of_type?_eq fun name => (agree name).2]
  · intro name hidden declared
    have member := (lookup_eq_some_iff schema.ascend name (.other hidden)).1 declared
    obtain ⟨written, type⟩ := obtained.mem member
    exact FieldType.not_mem_recognised_of_ofText_eq_other type

/-- Two declarations of one name, and names and types that need escapes. -/
theorem text_canonical_of_hostile_names :
    let schema := ofList ([("day", "date"), ("na\"me\n", "string"), ("day", "Straße \\ \x01")].map
      fun pair => (pair.1, FieldType.ofText pair.2))
    let other := ofList ([("na\"me\n", "string"), ("day", "Straße \\ \x01")].map
      fun pair => (pair.1, FieldType.ofText pair.2))
    schema.text = "\x7b\"day\":\x7b\"type\":\"Straße \\\\ \\u0001\"\x7d," ++
        "\"na\\\"me\\n\":\x7b\"type\":\"string\"\x7d\x7d" ∧
      ofText? schema.text = some schema ∧
      (∀ name, schema.declares name = other.declares name ∧
        schema.type? name = other.type? name) ∧
      "Straße \\ \x01" ∉ FieldType.recognised := by
  intro schema other
  have obtained : Obtained schema := .collected _
  have otherObtained : Obtained other := .collected _
  obtain ⟨back, canonical, hidden⟩ := text_canonical obtained
  have sameText : schema.text = other.text := by decide +kernel
  have declared : schema.type? "day" = some (.other "Straße \\ \x01") := by decide +kernel
  exact ⟨by decide +kernel, back, (canonical other otherObtained).1 sameText,
    hidden "day" _ declared⟩

end Schema

end Criteria
