namespace Criteria.Text

/-! ## Texts in pieces -/

/-- The pieces of a text between the occurrences of a separator. A text without
one is a single piece. -/
def pieces (separator : Char) : List Char → List (List Char)
  | [] => [[]]
  | head :: rest =>
    if head = separator then [] :: pieces separator rest
    else
      match pieces separator rest with
      | [] => [[head]]
      | first :: more => (head :: first) :: more

/-- Every text has a first piece. -/
theorem pieces_ne_nil (separator : Char) (text : List Char) :
    pieces separator text ≠ [] := by
  cases text with
  | nil => simp [pieces]
  | cons head rest =>
      unfold pieces
      split
      · simp
      · split <;> simp

/-- The lines of a text, without their line feeds. -/
def lines (text : String) : List String :=
  (pieces '\n' text.toList).map String.ofList

def firstLine (text : String) : String :=
  String.ofList (text.toList.takeWhile (· ≠ '\n'))

end Criteria.Text
