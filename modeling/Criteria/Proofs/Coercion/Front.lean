import Criteria.Coercion.Number

/-!
# Which texts have a number in front

A text is read as a number exactly if, behind white space and at most one sign, it
goes on with a digit, or for a real number with a point and a digit or with the word
for infinity. What follows decides the number, but never whether there is one.
-/

namespace Criteria

namespace Scan

variable {α β : Type}

/-- Whether a scanner accepts whatever it is given. -/
def Total (scan : Scan α) : Prop :=
  ∀ text, (scan text).isSome = true

/-- Only the first of two scanners can refuse, if the second never does. -/
theorem isSome_bind_of_total (first : Scan α) {next : α → Scan β}
    (total : ∀ value, (next value).Total) (text : List Char) :
    ((first >>= next) text).isSome = (first text).isSome := by
  show ((first text).bind fun result => next result.1 result.2).isSome = _
  cases read : first text with
  | none => rfl
  | some result => exact total result.1 result.2

theorem total_pure (value : α) : Total (pure value : Scan α) :=
  fun _ => rfl

theorem total_optional (scan : Scan α) : (optional scan).Total := by
  intro text
  unfold optional
  split <;> rfl

theorem Total.bind {first : Scan α} (firstTotal : first.Total) {next : α → Scan β}
    (total : ∀ value, (next value).Total) : Total (first >>= next) := by
  intro text
  rw [isSome_bind_of_total first total]
  exact firstTotal text

theorem isSome_orElse (first second : Scan α) (text : List Char) :
    ((first.orElse second) text).isSome = ((first text).isSome || (second text).isSome) := by
  unfold orElse
  cases read : first text with
  | none => rfl
  | some result => rfl

theorem isSome_literal (expected text : List Char) :
    (literal expected text).isSome = expected.isPrefixOf text := by
  induction expected generalizing text with
  | nil => rfl
  | cons head more ih =>
      cases text with
      | nil => rfl
      | cons first rest =>
          by_cases same : first = head
          · simp [literal, List.isPrefixOf, same, ih]
          · simp [literal, List.isPrefixOf, same, Ne.symm same]

end Scan

def startsWithDigit (text : List Char) : Bool :=
  text.head?.any Char.isDigit

/-- A text behind at most one sign. -/
def dropSign : List Char → List Char
  | '-' :: rest => rest
  | '+' :: rest => rest
  | text => text

namespace Digit

theorem isSome_many (text : List Char) : (many text).isSome = startsWithDigit text := by
  cases text with
  | nil => rfl
  | cons first rest =>
      cases digit : first.isDigit with
      | false => simp [many, Scan.span₁, startsWithDigit, digit]
      | true => simp [many, Scan.span₁, startsWithDigit, digit]

/-- A sign is never missed, since there may be none. -/
theorem sign_eq (text : List Char) : ∃ negative, sign text = some (negative, dropSign text) := by
  cases text with
  | nil => exact ⟨false, rfl⟩
  | cons first rest =>
      by_cases minus : first = '-'
      · subst minus
        exact ⟨true, rfl⟩
      · by_cases plus : first = '+'
        · subst plus
          exact ⟨false, rfl⟩
        · exact ⟨false, by simp [sign, dropSign, minus, plus]⟩

theorem isSome_sign_bind {α : Type} (next : Bool → Scan α) {accepts : List Char → Bool}
    (accepted : ∀ negative text, (next negative text).isSome = accepts text)
    (text : List Char) : ((sign >>= next) text).isSome = accepts (dropSign text) := by
  obtain ⟨negative, read⟩ := sign_eq text
  show ((sign text).bind fun result => next result.1 result.2).isSome = _
  rw [read]
  exact accepted negative (dropSign text)

end Digit

namespace Literal

theorem isSome_wholeFirst (text : List Char) :
    (wholeFirst text).isSome = startsWithDigit text := by
  rw [← Digit.isSome_many]
  refine Scan.isSome_bind_of_total Digit.many (fun whole => ?_) text
  exact (Scan.total_optional _).bind fun _ => Scan.total_pure _

/-- Whether a text goes on with a point and a digit. -/
def startsWithPoint : List Char → Bool
  | '.' :: rest => startsWithDigit rest
  | _ => false

theorem isSome_pointFirst (text : List Char) :
    (pointFirst text).isSome = startsWithPoint text := by
  have digits (rest : List Char) :
      ((Digit.many >>= fun fraction => pure ([], fraction) :
        Scan (List Char × List Char)) rest).isSome = startsWithDigit rest := by
    rw [Scan.isSome_bind_of_total _ fun _ => Scan.total_pure _]
    exact Digit.isSome_many rest
  cases text with
  | nil => rfl
  | cons first rest =>
      by_cases point : first = '.'
      · subst point
        exact digits rest
      · show ((Scan.char '.' (first :: rest)).bind _).isSome = _
        simp [Scan.char, point, startsWithPoint]

/-- A literal starts with a digit, or with a point and a digit. -/
theorem isSome_scan (text : List Char) :
    (scan text).isSome = (startsWithDigit text || startsWithPoint text) := by
  rw [← isSome_wholeFirst, ← isSome_pointFirst, ← Scan.isSome_orElse]
  refine Scan.isSome_bind_of_total _ (fun mantissa => ?_) text
  exact (Scan.total_optional _).bind fun _ => Scan.total_pure _

end Literal

namespace Coercion

/-- Whether a whole number stands at the front of a text. -/
def hasIntegerPrefix (text : String) : Bool :=
  startsWithDigit (dropSign (Text.dropBlank text.toList))

/-- Whether a real number stands at the front of a text. -/
def hasRealPrefix (text : String) : Bool :=
  let number := dropSign (Text.dropBlank text.toList)
  "Infinity".toList.isPrefixOf number || startsWithDigit number ||
    Literal.startsWithPoint number

/-- An integer is read exactly if one stands at the front of the text. -/
theorem isSome_integer? (text : String) : (integer? text).isSome = hasIntegerPrefix text := by
  have digits (negative : Bool) (rest : List Char) :
      ((Digit.many >>= fun digits => pure (negative, digits) :
        Scan (Bool × List Char)) rest).isSome = startsWithDigit rest := by
    rw [Scan.isSome_bind_of_total _ fun _ => Scan.total_pure _]
    exact Digit.isSome_many rest
  rw [integer?, Option.isSome_map, integerFront?, Option.isSome_map]
  exact Digit.isSome_sign_bind _ digits (Text.dropBlank text.toList)

/-- A real number is read exactly if one stands at the front of the text. -/
theorem isSome_float? (text : String) : (float? text).isSome = hasRealPrefix text := by
  have real (negative : Bool) (rest : List Char) :
      (Scan.orElse
        (do
          Scan.literal "Infinity".toList
          pure (Double.infinity negative))
        (do
          let literal ← Literal.scan
          pure (literal.toDouble negative)) rest).isSome =
        ("Infinity".toList.isPrefixOf rest || startsWithDigit rest ||
          Literal.startsWithPoint rest) := by
    rw [Scan.isSome_orElse, Scan.isSome_bind_of_total _ fun _ => Scan.total_pure _,
      Scan.isSome_bind_of_total _ fun _ => Scan.total_pure _, Scan.isSome_literal,
      Literal.isSome_scan, Bool.or_assoc]
  rw [float?, Option.isSome_map]
  exact Digit.isSome_sign_bind _ real (Text.dropBlank text.toList)

end Coercion

end Criteria
