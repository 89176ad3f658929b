import Criteria.Proofs.ExtendedJson.Parts

/-!
# Values written and read back

A value without reserved keys is read back from its relaxed form as itself, except that
an integer of 64 bits that fits 32 comes back as one of 32. The spelling of some leaves is
taken for granted: of doubles without a value, dates, bytes, decimals, patterns, and code
with its scope.
-/

namespace Criteria

namespace Hexadecimal

theorem value?_digit : ∀ value < 16, value? (digit value) = some value := by
  decide

theorem decodeChars?_flatMap_pair (bytes : List UInt8) :
    decodeChars? (bytes.flatMap pair) = some bytes := by
  induction bytes with
  | nil => rfl
  | cons byte rest ih =>
      have small : byte.toNat < 256 := byte.toNat_lt
      have high := value?_digit (byte.toNat / 16) (by omega)
      have low := value?_digit (byte.toNat % 16) (by omega)
      have whole : 16 * (byte.toNat / 16) + byte.toNat % 16 = byte.toNat := by omega
      simp [pair, decodeChars?, high, low, ih, whole]

end Hexadecimal

theorem ObjectId.ofText?_text (id : ObjectId) : ofText? id.text = some id := by
  obtain ⟨bytes, twelve⟩ := id
  have digits : Hexadecimal.decode? (Hexadecimal.encode bytes) = some bytes := by
    rw [Hexadecimal.decode?, Hexadecimal.encode, String.toList_ofList,
      Hexadecimal.decodeChars?_flatMap_pair]
  rw [ofText?, text, digits, Option.bind_some, ofBytes?, dif_pos twelve]

namespace Value

/-! ## Integers in the smaller kind -/

mutual

/-- The value with every integer of 64 bits that fits 32 as one of 32. -/
def narrowed : Value → Value
  | .int64 n => if fitsInt32 n.toInt then .int32 (Int32.ofInt n.toInt) else .int64 n
  | .document fields => .document (narrowedFields fields)
  | .array items => .array (narrowedItems items)
  | .codeWithScope source scope => .codeWithScope source (narrowedFields scope)
  | value => value

def narrowedItems : List Value → List Value
  | [] => []
  | head :: tail => narrowed head :: narrowedItems tail

def narrowedFields : List (String × Value) → List (String × Value)
  | [] => []
  | (name, value) :: tail => (name, narrowed value) :: narrowedFields tail

end

/-- A value that is read back from its relaxed form, up to the kind of integers. -/
def ReadsBack (value : Value) : Prop :=
  ofJson? value.toJson = some value.narrowed

theorem readsBack_int32 (n : Int32) : (Value.int32 n).ReadsBack := by
  have least := n.le_toInt
  have most := n.toInt_lt
  have fits : fitsInt32 n.toInt = true := by
    simp only [fitsInt32, Bool.and_eq_true, decide_eq_true_eq]
    omega
  have value : ofNumber (.integer n.toInt) = .int32 n := by
    simp [ofNumber, ofInt?, fits]
  simp [ReadsBack, toJson, formJson, ofJson?, value, narrowed]

/-- An integer of 64 bits is read back as one of 32 if it fits. -/
theorem readsBack_int64 (n : Int64) : (Value.int64 n).ReadsBack := by
  have least := n.le_toInt
  have most := n.toInt_lt
  have fits : fitsInt64 n.toInt = true := by
    simp only [fitsInt64, Bool.and_eq_true, decide_eq_true_eq]
    omega
  have value : ofNumber (.integer n.toInt) = (Value.int64 n).narrowed := by
    by_cases small : fitsInt32 n.toInt = true <;> simp [ofNumber, ofInt?, fits, narrowed, small]
  simp [ReadsBack, toJson, formJson, ofJson?, value]

/-! ## Wrapped leaves -/

theorem ofJson?_wrapped {wrapper : Wrapper} (notCode : wrapper ≠ .code) (body : Json) :
    ofJson? (wrapped wrapper body) = wrapper.value? body := by
  rw [wrapped, ofJson?, Wrapper.of?_singleton]
  cases wrapper with
  | code => exact absurd rfl notCode
  | _ => rfl

theorem readsBack_of_wrapped {value : Value} {wrapper : Wrapper} {body : Json}
    (written : value.toJson = wrapped wrapper body) (notCode : wrapper ≠ .code)
    (read : wrapper.value? body = some value.narrowed) : value.ReadsBack := by
  rw [ReadsBack, written, ofJson?_wrapped notCode, read]

theorem readsBack_objectId (id : ObjectId) : (Value.objectId id).ReadsBack := by
  apply readsBack_of_wrapped rfl Wrapper.noConfusion
  simp [Wrapper.value?, Json.text?, ObjectId.ofText?_text, narrowed]

theorem uint32?_number (n : UInt32) : Wrapper.uint32? (.number (.integer n.toNat)) = some n := by
  have most : n.toNat < 4294967296 := n.toNat_lt
  have fits : (n.toNat : Int) ≤ 4294967295 := by omega
  have kept : (some (n.toNat : Int)).filter (fun n => 0 ≤ n && n ≤ 4294967295) =
      some (n.toNat : Int) := by
    simp [Option.filter, fits]
  rw [Wrapper.uint32?, Json.integer?, kept]
  simp

theorem readsBack_timestamp (seconds increment : UInt32) :
    (Value.timestamp seconds increment).ReadsBack := by
  apply readsBack_of_wrapped rfl Wrapper.noConfusion
  simp [Wrapper.value?, Wrapper.record?, Json.membersExactly?, Keyed.get?, uint32?_number,
    narrowed]

theorem readsBack_dbPointer (collection : String) (id : ObjectId) :
    (Value.dbPointer collection id).ReadsBack := by
  have body : Wrapper.objectIdBody? (wrappedText .objectId id.text) = some id := by
    simp [Wrapper.objectIdBody?, Wrapper.texts?, Wrapper.record?, wrappedText, wrapped,
      Json.membersExactly?, Keyed.get?, Json.text?, ObjectId.ofText?_text]
  apply readsBack_of_wrapped rfl Wrapper.noConfusion
  simp [Wrapper.value?, Wrapper.record?, Json.membersExactly?, Keyed.get?, Json.text?, body,
    narrowed]

/-- Whether reading a leaf back depends on how its text is spelled. -/
def isSpelled : Value → Bool
  | .double d => !d.isFinite
  | .binary _ _ => true
  | .dateTime _ => true
  | .regex _ => true
  | .codeWithScope _ _ => true
  | .decimal128 _ => true
  | _ => false

/-- All leaves are read back but those that depend on how their text is spelled, which is
left open. -/
theorem readsBack_of_isLeaf {value : Value} (leaf : value.isLeaf = true)
    (spelled : value.isSpelled = true → value.ReadsBack) : value.ReadsBack := by
  cases value with
  | document fields => cases leaf
  | array items => cases leaf
  | double d =>
      by_cases finite : d.isFinite = true
      · simp [ReadsBack, toJson, formJson, doubleJson, finite, ofJson?, ofNumber, narrowed]
      · exact spelled (by simpa [isSpelled] using finite)
  | int32 n => exact readsBack_int32 n
  | int64 n => exact readsBack_int64 n
  | objectId id => exact readsBack_objectId id
  | timestamp seconds increment => exact readsBack_timestamp seconds increment
  | dbPointer collection id => exact readsBack_dbPointer collection id
  | null | boolean _ | string _ | undefined | code _ | symbol _ | maxKey | minKey => rfl
  | binary _ _ | dateTime _ | regex _ | codeWithScope _ _ | decimal128 _ => exact spelled rfl

/-! ## Documents and arrays -/

mutual

/-- A value without reserved keys is read back if its leaves are. -/
theorem readsBack_of_unreserved : ∀ value : Value, value.Unreserved →
    (∀ part ∈ parts value, part.isSpelled = true → part.ReadsBack) → value.ReadsBack
  | .document fields, unreserved, spelled => by
      have entries := (unreserved_document_iff fields).1 unreserved
      have inner := fieldsOf?_fieldsJson fields (fun entry member => (entries entry member).2)
        fun part member => spelled part (List.mem_cons_of_mem _ member)
      have free : Wrapper.of? (fieldsJson .relaxed fields) = none := by
        rw [Wrapper.of?_eq_none_iff, keys_fieldsJson]
        exact unreserved fields (mem_parts_self _)
      rw [ReadsBack, toJson, formJson, ofJson?, free, narrowed]
      simp only [inner, Option.map_some]
  | .array items, unreserved, spelled => by
      have inner := itemsOf?_itemsJson items ((unreserved_array_iff items).1 unreserved)
        fun part member => spelled part (List.mem_cons_of_mem _ member)
      rw [ReadsBack, toJson, formJson, ofJson?, inner, narrowed, Option.map_some]
  | .double _, _, spelled | .string _, _, spelled | .binary _ _, _, spelled
  | .undefined, _, spelled | .objectId _, _, spelled | .boolean _, _, spelled
  | .dateTime _, _, spelled | .null, _, spelled | .regex _, _, spelled
  | .dbPointer _ _, _, spelled | .code _, _, spelled | .symbol _, _, spelled
  | .codeWithScope _ _, _, spelled | .int32 _, _, spelled | .timestamp _ _, _, spelled
  | .int64 _, _, spelled | .decimal128 _, _, spelled | .maxKey, _, spelled
  | .minKey, _, spelled => readsBack_of_isLeaf rfl (spelled _ List.mem_cons_self)

theorem itemsOf?_itemsJson : ∀ items : List Value, (∀ item ∈ items, item.Unreserved) →
    (∀ part ∈ itemsParts items, part.isSpelled = true → part.ReadsBack) →
    itemsOf? (itemsJson .relaxed items) = some (narrowedItems items)
  | [], _, _ => rfl
  | head :: tail, unreserved, spelled => by
      have first := readsBack_of_unreserved head (unreserved head List.mem_cons_self)
        fun part member => spelled part (List.mem_append_left _ member)
      have rest := itemsOf?_itemsJson tail
        (fun item member => unreserved item (List.mem_cons_of_mem _ member))
        fun part member => spelled part (List.mem_append_right _ member)
      rw [ReadsBack, toJson] at first
      simp [itemsJson, itemsOf?, first, rest, narrowedItems]

theorem fieldsOf?_fieldsJson : ∀ fields : List (String × Value),
    (∀ entry ∈ fields, entry.2.Unreserved) →
    (∀ part ∈ fieldsParts fields, part.isSpelled = true → part.ReadsBack) →
    fieldsOf? (fieldsJson .relaxed fields) = some (narrowedFields fields)
  | [], _, _ => rfl
  | (name, value) :: tail, unreserved, spelled => by
      have first := readsBack_of_unreserved value (unreserved (name, value) List.mem_cons_self)
        fun part member => spelled part (List.mem_append_left _ member)
      have rest := fieldsOf?_fieldsJson tail
        (fun entry member => unreserved entry (List.mem_cons_of_mem _ member))
        fun part member => spelled part (List.mem_append_right _ member)
      rw [ReadsBack, toJson] at first
      simp [fieldsJson, fieldsOf?, first, rest, narrowedFields]

end

end Value

end Criteria
