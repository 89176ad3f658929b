import Criteria.Proofs.Pattern.Wildcards

/-!
# Escaped texts

An escaped text is read from left to right, each backslash together with the character
behind it. So read, it gives back the text that it was written for: a run of backslashes
in front of another metacharacter is paired as it was written. The escaped texts are the
sequences of plain characters and escaped metacharacters, and each is written for one
text only.
-/

namespace Criteria

namespace Pattern

/-! ## Reading escaped texts -/

/-- The characters of a text from left to right, each backslash together with the
character behind it. -/
def units : List Char → List (List Char)
  | '\\' :: c :: rest => ['\\', c] :: units rest
  | c :: rest => [c] :: units rest
  | [] => []

/-- The text that is read off an escaped one: the character of each unit, without the
backslash in front of it. -/
def unescape (text : List Char) : List Char :=
  (units text).filterMap List.getLast?

def unescapeText (text : String) : String :=
  String.ofList (unescape text.toList)

/-- What an escaped text consists of. -/
inductive EscapedItem : List Char → Prop
  | plain {c : Char} (other : c ∉ metacharacters) : EscapedItem [c]
  | escaped {c : Char} (special : c ∈ metacharacters) : EscapedItem ['\\', c]

/-- A text that is a sequence of plain characters and escaped metacharacters. -/
def Escaped (text : List Char) : Prop :=
  ∃ items : List (List Char), text = items.flatten ∧ ∀ item ∈ items, EscapedItem item

/-! ## Units -/

theorem units_cons_of_ne {c : Char} (other : c ≠ '\\') (rest : List Char) :
    units (c :: rest) = [c] :: units rest := by
  rw [units.eq_2]
  intro behind tail same
  exact absurd same other

/-- Where the items of a text are plain characters and escaped metacharacters, they are
what is read off it: no plain character is a backslash. -/
theorem units_flatten {items : List (List Char)} (each : ∀ item ∈ items, EscapedItem item) :
    units items.flatten = items := by
  induction items with
  | nil => rfl
  | cons item rest ih =>
      have later : units rest.flatten = rest :=
        ih fun other member => each other (List.mem_cons_of_mem _ member)
      rw [List.flatten_cons]
      cases each item List.mem_cons_self with
      | @plain c other =>
          have notBackslash : c ≠ '\\' := by
            rintro rfl
            exact other (by decide)
          rw [List.singleton_append, units_cons_of_ne notBackslash, later]
      | @escaped c special =>
          rw [List.cons_append, List.singleton_append, units, later]

theorem escapedItem_escapeChar (c : Char) : EscapedItem (escapeChar c) := by
  unfold escapeChar
  split
  · rename_i special
    exact .escaped special
  · rename_i other
    exact .plain other

/-- An escape ends in the character that it stands for. -/
theorem getLast?_escapeChar (c : Char) : (escapeChar c).getLast? = some c := by
  unfold escapeChar
  split <;> rfl

/-- Every item is what its last character is escaped to. -/
theorem EscapedItem.exists_escapeChar {item : List Char} (escaped : EscapedItem item) :
    ∃ c, escapeChar c = item := by
  cases escaped with
  | @plain c other => exact ⟨c, if_neg other⟩
  | @escaped c special => exact ⟨c, if_pos special⟩

/-! ## Escaping and reading -/

theorem escape_eq_flatten (text : List Char) : escape text = (text.map escapeChar).flatten :=
  List.flatMap_def

/-- Each character of a text is one unit of the escaped text. -/
theorem units_escape (text : List Char) : units (escape text) = text.map escapeChar := by
  rw [escape_eq_flatten]
  refine units_flatten fun item member => ?_
  obtain ⟨c, -, rfl⟩ := List.mem_map.1 member
  exact escapedItem_escapeChar c

theorem unescape_escape (text : List Char) : unescape (escape text) = text := by
  have characters : List.getLast? ∘ escapeChar = some := funext getLast?_escapeChar
  rw [unescape, units_escape, List.filterMap_map, characters, List.filterMap_some]

theorem escaped_escape (text : List Char) : Escaped (escape text) := by
  refine ⟨text.map escapeChar, escape_eq_flatten text, fun item member => ?_⟩
  obtain ⟨c, -, rfl⟩ := List.mem_map.1 member
  exact escapedItem_escapeChar c

/-- Every sequence of items is the escape of some text. -/
theorem exists_escape_of_escaped {text : List Char} (escaped : Escaped text) :
    ∃ raw, escape raw = text := by
  obtain ⟨items, rfl, each⟩ := escaped
  induction items with
  | nil => exact ⟨[], rfl⟩
  | cons item rest ih =>
      obtain ⟨c, first⟩ := (each item List.mem_cons_self).exists_escapeChar
      obtain ⟨raw, later⟩ := ih fun other member => each other (List.mem_cons_of_mem _ member)
      refine ⟨c :: raw, ?_⟩
      rw [List.flatten_cons, ← first, ← later]
      rfl

theorem escape_of_escaped {text : List Char} (escaped : Escaped text) :
    escape (unescape text) = text := by
  obtain ⟨raw, rfl⟩ := exists_escape_of_escaped escaped
  rw [unescape_escape]

/-! ## Where metacharacters stand -/

theorem Escaped.nil : Escaped [] :=
  ⟨[], rfl, fun _ member => absurd member List.not_mem_nil⟩

theorem Escaped.append {item text : List Char} (first : EscapedItem item)
    (escaped : Escaped text) : Escaped (item ++ text) := by
  obtain ⟨items, rfl, each⟩ := escaped
  refine ⟨item :: items, rfl, fun other member => ?_⟩
  rcases List.mem_cons.1 member with rfl | later
  · exact first
  · exact each other later

/-- A metacharacter of an escaped text stands behind a backslash that begins an item, or
is such a backslash in front of another metacharacter. -/
theorem Escaped.metacharacter {front back : List Char} {c : Char}
    (escaped : Escaped (front ++ c :: back)) (special : c ∈ metacharacters) :
    (∃ earlier, front = earlier ++ ['\\'] ∧ Escaped earlier) ∨
      c = '\\' ∧ Escaped front ∧ ∃ next rest, back = next :: rest ∧ next ∈ metacharacters := by
  obtain ⟨items, split, each⟩ := escaped
  induction items generalizing front with
  | nil => exact absurd split (by simp)
  | cons item rest ih =>
      have first : EscapedItem item := each item List.mem_cons_self
      have others : ∀ other ∈ rest, EscapedItem other :=
        fun other member => each other (List.mem_cons_of_mem _ member)
      -- behind the first item the rest of the items decides
      have behind {tail : List Char} (inFront : front = item ++ tail)
          (later : tail ++ c :: back = rest.flatten) :
          (∃ earlier, front = earlier ++ ['\\'] ∧ Escaped earlier) ∨
            c = '\\' ∧ Escaped front ∧
              ∃ next more, back = next :: more ∧ next ∈ metacharacters := by
        rcases ih later others with ⟨earlier, rfl, complete⟩ | ⟨isBackslash, complete, follows⟩
        · refine Or.inl ⟨item ++ earlier, ?_, complete.append first⟩
          rw [inFront, List.append_assoc]
        · exact Or.inr ⟨isBackslash, inFront ▸ complete.append first, follows⟩
      rw [List.flatten_cons] at split
      cases first with
      | @plain d other =>
          cases front with
          | nil =>
              have same : c = d := (List.cons.inj split).1
              exact absurd (same ▸ special) other
          | cons head tail =>
              obtain ⟨rfl, later⟩ := List.cons.inj split
              exact behind rfl later
      | @escaped d escapes =>
          rcases front with _ | ⟨head, _ | ⟨second, tail⟩⟩
          · obtain ⟨isBackslash, later⟩ := List.cons.inj split
            exact Or.inr ⟨isBackslash, .nil, d, _, later, escapes⟩
          · obtain ⟨rfl, -⟩ := List.cons.inj split
            exact Or.inl ⟨[], rfl, .nil⟩
          · obtain ⟨rfl, shorter⟩ := List.cons.inj split
            obtain ⟨rfl, later⟩ := List.cons.inj shorter
            exact behind rfl later

/-! ## Escaped strings -/

theorem toList_escapeText (text : String) : (escapeText text).toList = escape text.toList :=
  String.toList_ofList

theorem unescapeText_escapeText (text : String) : unescapeText (escapeText text) = text := by
  rw [unescapeText, toList_escapeText, unescape_escape, String.ofList_toList]

theorem escapeText_append (first second : String) :
    escapeText (first ++ second) = escapeText first ++ escapeText second := by
  apply String.toList_inj.1
  rw [String.toList_append, toList_escapeText, toList_escapeText, toList_escapeText,
    String.toList_append, escape_append]

/-- The texts that come out of escaping are the sequences of items. -/
theorem escapeText_unescapeText_iff (text : String) :
    escapeText (unescapeText text) = text ↔ Escaped text.toList := by
  constructor
  · intro same
    rw [← same, toList_escapeText]
    exact escaped_escape _
  · intro escaped
    rw [escapeText, unescapeText, String.toList_ofList, escape_of_escaped escaped,
      String.ofList_toList]

/-- Escaping goes one to one onto the escaped texts, and reading goes back: a text is read
off what it is escaped to, and of all texts the escaped ones are written again for what is
read off them. Texts are escaped piece by piece. No metacharacter stands in an escaped
text but behind an escaping backslash or as one. -/
theorem escapeText_bijective :
    (metacharacters.Nodup ∧ metacharacters.length = 18) ∧
      (∀ raw, unescapeText (escapeText raw) = raw) ∧
      (∀ first second, escapeText (first ++ second) = escapeText first ++ escapeText second) ∧
      (∀ text : String, (∃ raw, escapeText raw = text) ↔
        ∃ items : List (List Char), text.toList = items.flatten ∧
          ∀ item ∈ items, EscapedItem item) ∧
      (∀ text, escapeText (unescapeText text) = text ↔ Escaped text.toList) ∧
      Function.Injective escapeText ∧
      ∀ raw front c back, (escapeText raw).toList = front ++ c :: back → c ∈ metacharacters →
        (∃ earlier, front = earlier ++ ['\\'] ∧ Escaped earlier) ∨
          c = '\\' ∧ Escaped front ∧
            ∃ next rest, back = next :: rest ∧ next ∈ metacharacters := by
  refine ⟨by decide, unescapeText_escapeText, escapeText_append, fun text => ?_,
    escapeText_unescapeText_iff, ?_, ?_⟩
  · constructor
    · rintro ⟨raw, rfl⟩
      rw [toList_escapeText]
      exact escaped_escape raw.toList
    · intro escaped
      exact ⟨unescapeText text, (escapeText_unescapeText_iff text).2 escaped⟩
  · exact Function.LeftInverse.injective unescapeText_escapeText
  · intro raw front c back split special
    have escaped := escaped_escape raw.toList
    rw [← toList_escapeText, split] at escaped
    exact escaped.metacharacter special

/-- A run of backslashes in front of another metacharacter: of the five backslashes that
are written for it, the last one escapes the star. -/
theorem escapeText_bijective_of_backslashes :
    let raw := "\\\\*%"
    let written := "\\\\\\\\\\*%"
    escapeText raw = written ∧ unescapeText written = raw ∧
      written.toList = "\\\\\\\\\\".toList ++ '*' :: ['%'] ∧ '*' ∈ metacharacters ∧
      ((∃ earlier, "\\\\\\\\\\".toList = earlier ++ ['\\'] ∧ Escaped earlier) ∨
        '*' = '\\' ∧ Escaped "\\\\\\\\\\".toList ∧
          ∃ next rest, ['%'] = next :: rest ∧ next ∈ metacharacters) := by
  intro raw written
  obtain ⟨-, back, -, -, -, -, stands⟩ := escapeText_bijective
  have escaped : escapeText raw = written := by decide
  have read : unescapeText written = raw := escaped ▸ back raw
  have split : written.toList = "\\\\\\\\\\".toList ++ '*' :: ['%'] := by decide
  have special : '*' ∈ metacharacters := by decide
  exact ⟨escaped, read, split, special, stands raw _ _ _ (escaped ▸ split) special⟩

end Pattern

end Criteria
