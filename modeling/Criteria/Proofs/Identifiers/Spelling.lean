import Criteria.Proofs.Coercion.Dates
import Criteria.Proofs.ExtendedJson.RoundTrip

/-!
# Texts that spell identifiers

An identifier is spelled by the twenty-four hexadecimal digits of its bytes, in either
case, and by no other text. Where values become identifiers, the strings that spell one
do, at any depth of arrays but never in a document.
-/

namespace Criteria

/-! ## Digits -/

namespace Hexadecimal

def digits : List Char := "0123456789abcdefABCDEF".toList

/-- A character of a range is so many characters behind the first. -/
theorem exists_ofNat (first : Char) {c : Char} {n : Nat} (low : first ≤ c)
    (high : c.toNat < first.toNat + n) : ∃ k < n, c = Char.ofNat (first.toNat + k) := by
  have behind : first.toNat ≤ c.toNat := low
  refine ⟨c.toNat - first.toNat, by omega, ?_⟩
  rw [Nat.add_sub_cancel' behind, Char.ofNat_toNat]

theorem mem_digits_of_value? {c : Char} (read : (value? c).isSome = true) : c ∈ digits := by
  have numerals : ∀ k < 10, Char.ofNat ('0'.toNat + k) ∈ digits := by decide
  have small : ∀ k < 6, Char.ofNat ('a'.toNat + k) ∈ digits := by decide
  have capital : ∀ k < 6, Char.ofNat ('A'.toNat + k) ∈ digits := by decide
  unfold value? at read
  split at read
  · rename_i range
    obtain ⟨k, bound, rfl⟩ := exists_ofNat (n := 10) '0' range.1 (Nat.lt_succ_of_le range.2)
    exact numerals k bound
  · split at read
    · rename_i range
      obtain ⟨k, bound, rfl⟩ := exists_ofNat (n := 6) 'a' range.1 (Nat.lt_succ_of_le range.2)
      exact small k bound
    · split at read
      · rename_i range
        obtain ⟨k, bound, rfl⟩ := exists_ofNat (n := 6) 'A' range.1 (Nat.lt_succ_of_le range.2)
        exact capital k bound
      · cases read

theorem mem_digits_of_toLower {c : Char} (lower : c.toLower ∈ digits) : c ∈ digits := by
  have capital : ∀ k < 26, (Char.ofNat ('A'.toNat + k)).toLower ∈ digits →
      Char.ofNat ('A'.toNat + k) ∈ digits := by decide
  by_cases isUpper : 'A' ≤ c ∧ c ≤ 'Z'
  · obtain ⟨k, bound, rfl⟩ := exists_ofNat (n := 26) 'A' isUpper.1 (Nat.lt_succ_of_le isUpper.2)
    exact capital k bound lower
  · have same : c.toLower = c := dif_neg isUpper
    exact same ▸ lower

theorem value?_of_mem_digits (c : Char) (member : c ∈ digits) :
    ∃ value < 16, value? c = some value ∧ c.toLower = digit value := by
  have read : digits.all (fun c => (value? c).any fun value =>
      value < 16 && c.toLower == digit value) = true := by
    decide
  obtain ⟨value, known, both⟩ := (Option.any_eq_true _ _).1 (List.all_eq_true.1 read c member)
  simp only [Bool.and_eq_true, decide_eq_true_eq, beq_iff_eq] at both
  exact ⟨value, both.1, known, both.2⟩

theorem digit_mem_digits : ∀ value < 16, digit value ∈ digits := by
  decide

/-- A character reads as a value if it is the digit of this value, apart from its case. -/
theorem value?_eq_some_iff (c : Char) (value : Nat) :
    value? c = some value ↔ value < 16 ∧ c.toLower = digit value := by
  constructor
  · intro read
    have isDigit := mem_digits_of_value? (Option.isSome_of_eq_some read)
    obtain ⟨known, small, knownRead, lower⟩ := value?_of_mem_digits c isDigit
    rw [read] at knownRead
    cases knownRead
    exact ⟨small, lower⟩
  · rintro ⟨small, lower⟩
    have isDigit := mem_digits_of_toLower (lower ▸ digit_mem_digits value small)
    obtain ⟨known, knownSmall, read, knownLower⟩ := value?_of_mem_digits c isDigit
    have same : some known = some value := by
      rw [← value?_digit known knownSmall, ← knownLower, lower, value?_digit value small]
    rw [read, same]

/-- Two characters read as a byte if they are its two digits, apart from their case. -/
theorem value?_pair_iff (high low : Char) (byte : UInt8) :
    (∃ upper lower, value? high = some upper ∧ value? low = some lower ∧
        UInt8.ofNat (16 * upper + lower) = byte) ↔
      [high.toLower, low.toLower] = pair byte := by
  have size : byte.toNat < 256 := byte.toNat_lt
  simp only [value?_eq_some_iff, pair, List.cons.injEq, and_true]
  constructor
  · rintro ⟨upper, lower, ⟨upperSmall, isUpper⟩, ⟨lowerSmall, isLower⟩, rfl⟩
    have number : (UInt8.ofNat (16 * upper + lower)).toNat = 16 * upper + lower := by
      rw [UInt8.toNat_ofNat', Nat.mod_eq_of_lt (by omega)]
    have quotient : (16 * upper + lower) / 16 = upper := by omega
    have remainder : (16 * upper + lower) % 16 = lower := by omega
    rw [number, quotient, remainder]
    exact ⟨isUpper, isLower⟩
  · rintro ⟨isUpper, isLower⟩
    refine ⟨byte.toNat / 16, byte.toNat % 16, ⟨by omega, isUpper⟩, ⟨by omega, isLower⟩, ?_⟩
    rw [Nat.div_add_mod, UInt8.ofNat_toNat]

theorem decodeChars?_cons_cons_iff (high low : Char) (rest : List Char) (byte : UInt8)
    (bytes : List UInt8) :
    decodeChars? (high :: low :: rest) = some (byte :: bytes) ↔
      (∃ upper lower, value? high = some upper ∧ value? low = some lower ∧
        UInt8.ofNat (16 * upper + lower) = byte) ∧ decodeChars? rest = some bytes := by
  rw [decodeChars?]
  cases value? high with
  | none => simp
  | some upper =>
      cases value? low with
      | none => simp
      | some lower =>
          constructor
          · intro decoded
            obtain ⟨more, read, same⟩ := Option.map_eq_some_iff.1 decoded
            obtain ⟨number, rfl⟩ := List.cons.inj same
            exact ⟨⟨upper, lower, rfl, rfl, number⟩, read⟩
          · rintro ⟨⟨u, l, ⟨⟩, ⟨⟩, rfl⟩, read⟩
            exact Option.map_eq_some_iff.2 ⟨bytes, read, rfl⟩

/-- Characters read as bytes if they are the digits of these, apart from their case. -/
theorem decodeChars?_eq_some_iff : ∀ (chars : List Char) (bytes : List UInt8),
    decodeChars? chars = some bytes ↔ chars.map Char.toLower = bytes.flatMap pair
  | [], [] => iff_of_true rfl rfl
  | [], _ :: _ => by simp [decodeChars?, pair]
  | [_], [] => by simp [decodeChars?]
  | [_], _ :: _ => by simp [decodeChars?, pair]
  | high :: low :: rest, [] => by
      rw [decodeChars?]
      split <;> simp
  | high :: low :: rest, byte :: bytes => by
      have later := decodeChars?_eq_some_iff rest bytes
      rw [decodeChars?_cons_cons_iff, value?_pair_iff, later]
      simp [pair, and_assoc]

/-- An even number of digits reads as half as many bytes. -/
theorem exists_decodeChars? : ∀ (n : Nat) (chars : List Char), chars.length = 2 * n →
    (∀ c ∈ chars, c ∈ digits) → ∃ bytes, decodeChars? chars = some bytes ∧ bytes.length = n
  | 0, [], _, _ => ⟨[], rfl, rfl⟩
  | n + 1, high :: low :: rest, even, isDigit => by
      have even : rest.length = 2 * n := by
        rw [List.length_cons, List.length_cons] at even
        omega
      obtain ⟨highDigit, others⟩ := List.forall_mem_cons.1 isDigit
      obtain ⟨lowDigit, restDigits⟩ := List.forall_mem_cons.1 others
      obtain ⟨upper, -, highRead, -⟩ := value?_of_mem_digits high highDigit
      obtain ⟨lower, -, lowRead, -⟩ := value?_of_mem_digits low lowDigit
      obtain ⟨bytes, read, half⟩ := exists_decodeChars? n rest even restDigits
      have decoded := (decodeChars?_cons_cons_iff high low rest _ bytes).2
        ⟨⟨upper, lower, highRead, lowRead, rfl⟩, read⟩
      exact ⟨_, decoded, congrArg Nat.succ half⟩
  | _ + 1, [], even, _ => by cases even
  | n + 1, [_], even, _ => by
      rw [List.length_singleton] at even
      omega

theorem length_flatMap_pair (bytes : List UInt8) :
    (bytes.flatMap pair).length = 2 * bytes.length := by
  induction bytes with
  | nil => rfl
  | cons byte rest ih =>
      rw [List.flatMap_cons, List.length_append, ih, List.length_cons]
      show 2 + 2 * rest.length = 2 * (rest.length + 1)
      omega

end Hexadecimal

/-! ## Spellings of identifiers -/

namespace ObjectId

/-- A text of twenty-four hexadecimal digits of either case. -/
def IsSpelling (text : String) : Prop :=
  text.length = 24 ∧ ∀ c ∈ text.toList, c ∈ Hexadecimal.digits

/-- Whether a text is that of an identifier, apart from the case of its digits. -/
def Spells (text : String) (id : ObjectId) : Prop :=
  text.toList.map Char.toLower = id.text.toList

/-- A text is read as an identifier exactly if it spells it. -/
theorem ofText?_eq_some_iff (text : String) (id : ObjectId) :
    ofText? text = some id ↔ Spells text id := by
  obtain ⟨bytes, twelve⟩ := id
  rw [Spells, ObjectId.text, Hexadecimal.encode, String.toList_ofList,
    ← Hexadecimal.decodeChars?_eq_some_iff, ofText?, Hexadecimal.decode?, Option.bind_eq_some_iff]
  constructor
  · rintro ⟨read, decoded, whole⟩
    rw [ofBytes?] at whole
    split at whole
    · cases whole
      exact decoded
    · cases whole
  · intro decoded
    exact ⟨bytes, decoded, dif_pos twelve⟩

/-- The texts that spell an identifier are those of twenty-four digits. -/
theorem exists_spells_iff (text : String) : (∃ id, Spells text id) ↔ IsSpelling text := by
  constructor
  · rintro ⟨id, spells⟩
    have read := (ofText?_eq_some_iff text id).2 spells
    obtain ⟨bytes, decoded, -⟩ := Option.bind_eq_some_iff.1 read
    refine ⟨?_, fun c member => ?_⟩
    · have length := congrArg List.length spells
      rw [List.length_map, ObjectId.text, Hexadecimal.encode, String.toList_ofList,
        Hexadecimal.length_flatMap_pair, id.length_eq] at length
      rw [← String.length_toList, length]
    · exact Hexadecimal.mem_digits_of_value? (Hexadecimal.value?_of_mem decoded c member)
  · rintro ⟨length, isDigit⟩
    rw [← String.length_toList] at length
    obtain ⟨bytes, decoded, twelve⟩ := Hexadecimal.exists_decodeChars? 12 _ length isDigit
    refine ⟨⟨bytes, twelve⟩, (ofText?_eq_some_iff text _).1 ?_⟩
    exact Option.bind_eq_some_iff.2 ⟨bytes, decoded, dif_pos twelve⟩

end ObjectId

/-! ## Values that become identifiers -/

namespace Coercion

mutual

/-- A value, and what it becomes where values become identifiers: a string that spells an
identifier becomes it, and an array has this done to its items. -/
inductive Identified : Value → Value → Prop
  | spelled {text : String} {id : ObjectId} (digits : ObjectId.IsSpelling text)
      (spells : ObjectId.Spells text id) : Identified (.string text) (.objectId id)
  | unspelled {text : String} (other : ¬ObjectId.IsSpelling text) :
      Identified (.string text) (.string text)
  | array {items identified : List Value} (each : EachIdentified items identified) :
      Identified (.array items) (.array identified)
  | fixed {value : Value} (other : Fixed value) : Identified value value

inductive EachIdentified : List Value → List Value → Prop
  | nil : EachIdentified [] []
  | cons {item identified : Value} {rest identifiedRest : List Value}
      (here : Identified item identified) (later : EachIdentified rest identifiedRest) :
      EachIdentified (item :: rest) (identified :: identifiedRest)

end

mutual

/-- Every value is related to what it becomes. -/
theorem identified_toObjectId : ∀ value : Value, Identified value (toObjectId value)
  | .string text => by
      rw [toObjectId]
      cases read : ObjectId.ofText? text with
      | some id =>
          have spells := (ObjectId.ofText?_eq_some_iff text id).1 read
          exact .spelled ((ObjectId.exists_spells_iff text).1 ⟨id, spells⟩) spells
      | none =>
          refine .unspelled fun digits => ?_
          obtain ⟨id, spells⟩ := (ObjectId.exists_spells_iff text).2 digits
          have spelled := (ObjectId.ofText?_eq_some_iff text id).2 spells
          exact absurd (read.symm.trans spelled) (Option.some_ne_none id).symm
  | .array items => .array (eachIdentified_toObjectIds items)
  | .document _ | .double _ | .binary _ _ | .undefined | .objectId _ | .boolean _
  | .dateTime _ | .null | .regex _ | .dbPointer _ _ | .code _ | .symbol _
  | .codeWithScope _ _ | .int32 _ | .timestamp _ _ | .int64 _ | .decimal128 _
  | .maxKey | .minKey => .fixed trivial

theorem eachIdentified_toObjectIds : ∀ items : List Value,
    EachIdentified items (toObjectIds items)
  | [] => .nil
  | item :: rest => .cons (identified_toObjectId item) (eachIdentified_toObjectIds rest)

end

mutual

/-- A value is related to nothing but what it becomes. -/
theorem Identified.eq : ∀ {value identified : Value}, Identified value identified →
    identified = toObjectId value
  | _, _, .spelled _ spells => by
      rw [toObjectId, (ObjectId.ofText?_eq_some_iff _ _).2 spells]
  | _, _, @Identified.unspelled text other => by
      rw [toObjectId]
      cases read : ObjectId.ofText? text with
      | some id =>
          have spells := (ObjectId.ofText?_eq_some_iff text id).1 read
          exact absurd ((ObjectId.exists_spells_iff text).1 ⟨id, spells⟩) other
      | none => rfl
  | _, _, .array each => by rw [toObjectId, each.eq]
  | value, _, .fixed other => by
      cases value with
      | string _ => exact other.elim
      | array _ => exact other.elim
      | _ => rfl

theorem EachIdentified.eq : ∀ {items identified : List Value},
    EachIdentified items identified → identified = toObjectIds items
  | _, _, .nil => rfl
  | _, _, .cons here later => by rw [toObjectIds, here.eq, later.eq]

end

/-- Every value becomes exactly one. -/
theorem identified_iff (value identified : Value) :
    Identified value identified ↔ identified = toObjectId value :=
  ⟨Identified.eq, fun same => same ▸ identified_toObjectId value⟩

end Coercion

end Criteria
