import Criteria.Text.Lowercase
import Criteria.Text.Pieces
import Criteria.Text.Quoted

/-!
# Lines of a text

A text without line feeds is a single line, and in front of another text it only makes
the first line of that one longer. A text in quotes has no line feed whatever it holds,
and lower case hides none.
-/

namespace Criteria

namespace Text

def OneLine (text : String) : Prop := '\n' ∉ text.toList

instance (text : String) : Decidable (OneLine text) :=
  inferInstanceAs (Decidable ('\n' ∉ text.toList))

@[simp]
theorem oneLine_append (first second : String) :
    OneLine (first ++ second) ↔ OneLine first ∧ OneLine second := by
  simp [OneLine, String.toList_append, not_or]

/-! ## Lines -/

theorem pieces_of_not_mem {separator : Char} {text : List Char} (absent : separator ∉ text) :
    pieces separator text = [text] := by
  induction text with
  | nil => rfl
  | cons head rest ih =>
      have headNe : head ≠ separator := fun same => absent (same ▸ List.mem_cons_self)
      have restPieces := ih fun member => absent (List.mem_cons_of_mem head member)
      rw [pieces, if_neg headNe, restPieces]

/-- What holds no separator becomes part of the first piece. -/
theorem pieces_append_of_not_mem {separator : Char} {front : List Char}
    (absent : separator ∉ front) (text : List Char) :
    ∃ first more, pieces separator text = first :: more ∧
      pieces separator (front ++ text) = (front ++ first) :: more := by
  induction front with
  | nil =>
      obtain ⟨first, more, parts⟩ := List.exists_cons_of_ne_nil (pieces_ne_nil separator text)
      exact ⟨first, more, parts, parts⟩
  | cons head rest ih =>
      have headNe : head ≠ separator := fun same => absent (same ▸ List.mem_cons_self)
      obtain ⟨first, more, parts, joined⟩ :=
        ih fun member => absent (List.mem_cons_of_mem head member)
      refine ⟨first, more, parts, ?_⟩
      rw [List.cons_append, pieces, if_neg headNe, joined]
      rfl

theorem head_pieces (separator : Char) (text : List Char) :
    ∃ more, pieces separator text = text.takeWhile (· ≠ separator) :: more := by
  induction text with
  | nil => exact ⟨[], rfl⟩
  | cons head rest ih =>
      by_cases same : head = separator
      · exact ⟨pieces separator rest, by simp [pieces, same]⟩
      · obtain ⟨more, parts⟩ := ih
        exact ⟨more, by simp [pieces, same, parts]⟩

/-- The lines of a text behind the first one. -/
def furtherLines (text : String) : List String :=
  (lines text).tail

theorem lines_eq (text : String) : lines text = firstLine text :: furtherLines text := by
  obtain ⟨more, parts⟩ := head_pieces '\n' text.toList
  simp [furtherLines, lines, firstLine, parts]

/-- What holds no line feed lengthens the first line only. -/
theorem lines_append {front : String} (oneLine : OneLine front) (text : String) :
    lines (front ++ text) = (front ++ firstLine text) :: furtherLines text := by
  obtain ⟨first, more, parts, joined⟩ := pieces_append_of_not_mem oneLine text.toList
  have firstEq : firstLine text = String.ofList first := by
    have same := lines_eq text
    rw [lines, parts, List.map_cons] at same
    exact (List.cons.inj same).1.symm
  have moreEq : furtherLines text = more.map String.ofList := by
    rw [furtherLines, lines, parts, List.map_cons, List.tail_cons]
  rw [lines, String.toList_append, joined, firstEq, moreEq, List.map_cons, String.ofList_append,
    String.ofList_toList]

theorem lines_of_oneLine {text : String} (oneLine : OneLine text) : lines text = [text] := by
  rw [lines, pieces_of_not_mem oneLine, List.map_singleton, String.ofList_toList]

/-! ## Texts in quotes -/

theorem newline_not_mem_toDigits (n : Nat) : '\n' ∉ Nat.toDigits 16 n := by
  have digits : ∀ d < 16, '\n' ≠ Nat.digitChar d := by decide
  induction n using Nat.strongRecOn with
  | ind n ih =>
      rw [Nat.toDigits_eq_if (by omega)]
      split
      · rename_i small
        simp [digits n small]
      · rename_i large
        have last := digits (n % 16) (Nat.mod_lt n (by omega))
        have front := ih (n / 16) (by omega)
        simp [front, last]

/-- Quoting writes a line feed as its code. -/
theorem newline_not_mem_quotedChar (c : Char) : '\n' ∉ quotedChar c := by
  have code := newline_not_mem_toDigits c.toNat
  unfold quotedChar
  split
  · decide
  split
  · decide
  split
  · decide
  split
  · decide
  rename_i notFeed
  have differs : '\n' ≠ c := Ne.symm notFeed
  split
  · simp [differs]
  split
  · simp [differs]
  · simp [Hexadecimal.ofNat, code]

theorem oneLine_quoted (text : String) : OneLine (quoted text) := by
  simp [OneLine, quoted, newline_not_mem_quotedChar]

/-! ## Texts in lower case -/

theorem oneLine_of_oneLine_lowercase {text : String} (oneLine : OneLine (lowercase text)) :
    OneLine text := by
  intro member
  apply oneLine
  have kept : '\n' ∈ lowercaseChar '\n' := by decide
  simp only [lowercase, String.toList_ofList, List.mem_flatMap]
  exact ⟨'\n', member, kept⟩

end Text

end Criteria
