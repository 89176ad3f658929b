import Criteria.ExtendedJson.Printer
import Criteria.ExtendedJson.Reader
import Criteria.Proofs.Keyed

/-!
# Documents without reserved keys

A document with a reserved key would be taken for a wrapper when it is read back. None
is read in the first place, at whatever depth: an object with such a key becomes a value
without fields, or no value at all.
-/

namespace Criteria

namespace Value

/-! ## Parts -/

mutual

/-- A value and what stands in its items and fields, at any depth. The scope of code is
no part of it. -/
def parts : Value → List Value
  | .document fields => .document fields :: fieldsParts fields
  | .array items => .array items :: itemsParts items
  | value => [value]

def itemsParts : List Value → List Value
  | [] => []
  | head :: tail => parts head ++ itemsParts tail

def fieldsParts : List (String × Value) → List Value
  | [] => []
  | (_, value) :: tail => parts value ++ fieldsParts tail

end

theorem itemsParts_eq_flatMap (items : List Value) : itemsParts items = items.flatMap parts := by
  induction items with
  | nil => rfl
  | cons head tail ih => rw [itemsParts, ih, List.flatMap_cons]

theorem fieldsParts_eq_flatMap (fields : Document) :
    fieldsParts fields = fields.flatMap fun entry => parts entry.2 := by
  induction fields with
  | nil => rfl
  | cons entry tail ih => rw [fieldsParts, ih, List.flatMap_cons]

theorem mem_parts_self (value : Value) : value ∈ parts value := by
  cases value <;> exact List.mem_cons_self

theorem mem_parts_array {part : Value} {items : List Value} :
    part ∈ parts (.array items) ↔ part = .array items ∨ ∃ item ∈ items, part ∈ parts item := by
  rw [parts, List.mem_cons, itemsParts_eq_flatMap, List.mem_flatMap]

theorem mem_parts_document {part : Value} {fields : Document} :
    part ∈ parts (.document fields) ↔
      part = .document fields ∨ ∃ entry ∈ fields, part ∈ parts entry.2 := by
  rw [parts, List.mem_cons, fieldsParts_eq_flatMap, List.mem_flatMap]

def isLeaf : Value → Bool
  | .document _ => false
  | .array _ => false
  | _ => true

theorem parts_of_isLeaf {value : Value} (leaf : value.isLeaf = true) : parts value = [value] := by
  cases value with
  | document fields => cases leaf
  | array items => cases leaf
  | _ => rfl

end Value

/-! ## Reserved keys -/

namespace Wrapper

/-- A key that no wrapper claims. -/
abbrev Free (key : String) : Prop := key ∉ all.map Wrapper.key

/-- An object is read as a document when none of its keys is reserved. -/
theorem of?_eq_none_iff (members : List (String × Json)) :
    of? members = none ↔ ∀ key ∈ Keyed.keys members, Free key := by
  simp only [of?, List.find?_eq_none, Keyed.contains_iff_mem_keys, Free, List.mem_map]
  constructor
  · rintro absent key member ⟨wrapper, isWrapper, rfl⟩
    exact absent wrapper isWrapper member
  · intro free wrapper isWrapper member
    exact free wrapper.key member ⟨wrapper, isWrapper, rfl⟩

theorem of?_singleton (wrapper : Wrapper) (body : Json) :
    of? [(wrapper.key, body)] = some wrapper := by
  cases wrapper <;> rfl

/-- What a wrapper holds is a leaf. -/
theorem isLeaf_value? {wrapper : Wrapper} {body : Json} {value : Value}
    (read : wrapper.value? body = some value) : value.isLeaf = true := by
  cases wrapper with
  | objectId | symbol | int64 | double | decimal128 | uuid | code | dateTime =>
      obtain ⟨_, _, rfl⟩ := Option.map_eq_some_iff.1 read
      rfl
  | int32 =>
      obtain ⟨_, _, read⟩ := Option.bind_eq_some_iff.1 read
      obtain ⟨_, _, read⟩ := Option.bind_eq_some_iff.1 read
      split at read
      · cases read
        rfl
      · cases read
  | binary =>
      simp only [value?] at read
      split at read
      · obtain ⟨_, _, read⟩ := Option.bind_eq_some_iff.1 read
        obtain ⟨_, _, read⟩ := Option.bind_eq_some_iff.1 read
        split at read
        · cases read
          rfl
        · cases read
      · cases read
  | timestamp | dbPointer =>
      simp only [value?] at read
      split at read
      · obtain ⟨_, _, read⟩ := Option.bind_eq_some_iff.1 read
        obtain ⟨_, _, read⟩ := Option.bind_eq_some_iff.1 read
        cases read
        rfl
      · cases read
  | regex | minKey | maxKey | undefined =>
      simp only [value?] at read
      split at read
      · cases read
        rfl
      · cases read

end Wrapper

namespace Value

theorem keys_fieldsJson (form : Form) (fields : Document) :
    Keyed.keys (fieldsJson form fields) = Keyed.keys fields := by
  induction fields with
  | nil => rfl
  | cons entry rest ih =>
      rw [fieldsJson]
      exact congrArg (entry.1 :: ·) ih

/-- No document in a value has a reserved key. -/
def Unreserved (value : Value) : Prop :=
  ∀ fields, .document fields ∈ parts value → ∀ key ∈ Keyed.keys fields, Wrapper.Free key

theorem unreserved_of_isLeaf {value : Value} (leaf : value.isLeaf = true) :
    value.Unreserved := by
  intro fields member
  rw [parts_of_isLeaf leaf] at member
  rw [← List.mem_singleton.1 member] at leaf
  cases leaf

theorem unreserved_array_iff (items : List Value) :
    (Value.array items).Unreserved ↔ ∀ item ∈ items, item.Unreserved := by
  constructor
  · intro unreserved item member fields part
    exact unreserved fields (mem_parts_array.2 (Or.inr ⟨item, member, part⟩))
  · intro unreserved fields part
    rcases mem_parts_array.1 part with same | ⟨item, member, inner⟩
    · cases same
    · exact unreserved item member fields inner

/-- A document is free of reserved keys if its own keys and its values are. -/
theorem unreserved_document_iff (fields : Document) :
    (Value.document fields).Unreserved ↔
      ∀ entry ∈ fields, Wrapper.Free entry.1 ∧ entry.2.Unreserved := by
  constructor
  · intro unreserved entry member
    refine ⟨unreserved fields (mem_parts_self _) entry.1 (List.mem_map_of_mem member), ?_⟩
    intro inner part
    exact unreserved inner (mem_parts_document.2 (Or.inr ⟨entry, member, part⟩))
  · intro unreserved inner part
    rcases mem_parts_document.1 part with same | ⟨entry, member, within⟩
    · obtain rfl := Value.document.inj same
      intro key named
      obtain ⟨entry, member, rfl⟩ := List.mem_map.1 named
      exact (unreserved entry member).1
    · exact (unreserved entry member).2 inner within

/-! ## What is read has no reserved keys -/

theorem isLeaf_codeOf? {members : List (String × Json)} {scope : Option Document} {value : Value}
    (read : codeOf? members scope = some value) : value.isLeaf = true := by
  obtain ⟨_, _, read⟩ := Option.bind_eq_some_iff.1 read
  obtain ⟨_, _, read⟩ := Option.bind_eq_some_iff.1 read
  split at read
  · cases read
  · split at read <;> cases read <;> rfl

theorem isLeaf_ofNumber (number : JsonNumber) : (ofNumber number).isLeaf = true := by
  cases number with
  | real d => rfl
  | integer n =>
      rw [ofNumber, ofInt?]
      split
      · rfl
      · split <;> rfl

mutual

/-- A value that is read has no reserved key, for an object with one is read as what it
wraps. -/
theorem unreserved_ofJson? : ∀ {json : Json} {value : Value},
    ofJson? json = some value → value.Unreserved
  | .null, _, read | .bool _, _, read | .string _, _, read => by
      obtain rfl := Option.some.inj read
      exact unreserved_of_isLeaf rfl
  | .number n, _, read => by
      obtain rfl := Option.some.inj read
      exact unreserved_of_isLeaf (isLeaf_ofNumber n)
  | .array items, _, read => by
      obtain ⟨values, readItems, rfl⟩ := Option.map_eq_some_iff.1 read
      exact (unreserved_array_iff values).2 (unreserved_itemsOf? readItems)
  | .object members, value, read => by
      rw [ofJson?] at read
      split at read
      · rename_i unwrapped
        obtain ⟨fields, readFields, rfl⟩ := Option.map_eq_some_iff.1 read
        rw [unreserved_document_iff]
        intro entry member
        obtain ⟨named, unreserved⟩ := unreserved_fieldsOf? readFields entry member
        exact ⟨(Wrapper.of?_eq_none_iff members).1 unwrapped entry.1 named, unreserved⟩
      · -- the scope is read as a document of its own, but it is no part of the code
        obtain ⟨scope, _, code⟩ := Option.bind_eq_some_iff.1 read
        exact unreserved_of_isLeaf (isLeaf_codeOf? code)
      · split at read
        · exact unreserved_of_isLeaf (Wrapper.isLeaf_value? read)
        · cases read

theorem unreserved_itemsOf? : ∀ {items : List Json} {values : List Value},
    itemsOf? items = some values → ∀ value ∈ values, value.Unreserved
  | [], _, read, _, member => by
      obtain rfl := Option.some.inj read
      exact absurd member List.not_mem_nil
  | head :: tail, values, read, value, member => by
      rw [itemsOf?] at read
      obtain ⟨first, readFirst, read⟩ := Option.bind_eq_some_iff.1 read
      obtain ⟨rest, readRest, read⟩ := Option.bind_eq_some_iff.1 read
      obtain rfl := Option.some.inj read
      rcases List.mem_cons.1 member with rfl | later
      · exact unreserved_ofJson? readFirst
      · exact unreserved_itemsOf? readRest value later

theorem unreserved_fieldsOf? : ∀ {members : List (String × Json)} {fields : Document},
    fieldsOf? members = some fields →
    ∀ entry ∈ fields, entry.1 ∈ Keyed.keys members ∧ entry.2.Unreserved
  | [], _, read, _, member => by
      obtain rfl := Option.some.inj read
      exact absurd member List.not_mem_nil
  | (name, json) :: tail, fields, read, entry, member => by
      rw [fieldsOf?] at read
      obtain ⟨first, readFirst, read⟩ := Option.bind_eq_some_iff.1 read
      obtain ⟨rest, readRest, read⟩ := Option.bind_eq_some_iff.1 read
      obtain rfl := Option.some.inj read
      rcases List.mem_cons.1 member with rfl | later
      · exact ⟨List.mem_cons_self, unreserved_ofJson? readFirst⟩
      · obtain ⟨named, unreserved⟩ := unreserved_fieldsOf? readRest entry later
        exact ⟨List.mem_cons_of_mem _ named, unreserved⟩

end

end Value

end Criteria
