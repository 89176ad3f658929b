import Criteria.Text.Digit

/-!
# Scanners in a row

What a scanner reads off a text is known from what its parts read, one behind the
other. A run of characters of one kind is read up to where it ends.
-/

namespace Criteria

namespace Scan

variable {α β : Type}

theorem bind_of_some {scan : Scan α} {text rest : List Char} {value : α}
    (read : scan text = some (value, rest)) (next : α → Scan β) :
    (scan >>= next) text = next value rest := by
  simp [bind, StateT.bind, read]

theorem map_of_some {scan : Scan α} {text rest : List Char} {value : α}
    (read : scan text = some (value, rest)) (change : α → β) :
    (change <$> scan) text = some (change value, rest) := by
  simp [Functor.map, StateT.map, read]

theorem orElse_of_some {first : Scan α} {text rest : List Char} {value : α}
    (read : first text = some (value, rest)) (second : Scan α) :
    Scan.orElse first second text = some (value, rest) := by
  simp [Scan.orElse, read]

theorem orElse_of_none {first : Scan α} {text : List Char} (refused : first text = none)
    (second : Scan α) : Scan.orElse first second text = second text := by
  simp [Scan.orElse, refused]

theorem char_cons (expected : Char) (rest : List Char) :
    Scan.char expected (expected :: rest) = some ((), rest) := by
  simp [Scan.char]

theorem literal_append (expected rest : List Char) :
    Scan.literal expected (expected ++ rest) = some ((), rest) := by
  induction expected with
  | nil => rfl
  | cons c more ih => simp [Scan.literal, ih]

/-- A run of accepted characters is read up to where it ends. -/
theorem span_append {accept : Char → Bool} {run rest : List Char}
    (inside : ∀ c ∈ run, accept c = true) (ends : rest.head?.any accept = false) :
    Scan.span accept (run ++ rest) = some (run, rest) := by
  have none : rest.takeWhile accept = [] ∧ rest.dropWhile accept = rest := by
    cases rest with
    | nil => exact ⟨rfl, rfl⟩
    | cons c more =>
        have refused : accept c = false := ends
        simp [refused]
  rw [Scan.span, List.takeWhile_append_of_pos inside, List.dropWhile_append_of_pos inside,
    none.1, none.2, List.append_nil]

theorem span₁_append {accept : Char → Bool} {run rest : List Char} (nonempty : run ≠ [])
    (inside : ∀ c ∈ run, accept c = true) (ends : rest.head?.any accept = false) :
    Scan.span₁ accept (run ++ rest) = some (run, rest) := by
  obtain ⟨taken, left⟩ := Prod.mk.inj (Option.some.inj (span_append inside ends))
  rw [Scan.span₁, taken, left]
  cases run with
  | nil => exact absurd rfl nonempty
  | cons c more => rfl

theorem optional_of_some {scan : Scan α} {text rest : List Char} {value : α}
    (read : scan text = some (value, rest)) :
    Scan.optional scan text = some (some value, rest) := by
  rw [Scan.optional, read]

theorem optional_of_none {scan : Scan α} {text : List Char} (refused : scan text = none) :
    Scan.optional scan text = some (none, text) := by
  rw [Scan.optional, refused]

theorem bind_of_none {scan : Scan α} {text : List Char} (refused : scan text = none)
    (next : α → Scan β) : (scan >>= next) text = none := by
  simp [bind, StateT.bind, refused]

/-! ## What was read -/

/-- Two scanners in a row have each read their part. -/
theorem exists_of_bind {scan : Scan α} {next : α → Scan β} {text : List Char}
    {result : β × List Char} (read : (scan >>= next) text = some result) :
    ∃ value rest, scan text = some (value, rest) ∧ next value rest = some result := by
  obtain ⟨⟨value, rest⟩, first, second⟩ := Option.bind_eq_some_iff.1 read
  exact ⟨value, rest, first, second⟩

theorem exists_of_map {scan : Scan α} {change : α → β} {text rest : List Char} {changed : β}
    (read : (change <$> scan) text = some (changed, rest)) :
    ∃ value, scan text = some (value, rest) ∧ changed = change value := by
  obtain ⟨⟨value, behind⟩, first, second⟩ := Option.bind_eq_some_iff.1 read
  obtain ⟨same, rfl⟩ := Prod.mk.inj (Option.some.inj second)
  exact ⟨value, first, same.symm⟩

theorem eq_cons_of_char {expected : Char} {text rest : List Char} {value : Unit}
    (read : Scan.char expected text = some (value, rest)) : text = expected :: rest := by
  cases text with
  | nil => cases read
  | cons head more =>
      by_cases same : head = expected
      · rw [Scan.char, if_pos same] at read
        rw [same, (Prod.mk.inj (Option.some.inj read)).2]
      · rw [Scan.char, if_neg same] at read
        cases read

theorem eq_cons_of_next {accept : Char → Bool} {text rest : List Char} {c : Char}
    (read : Scan.next accept text = some (c, rest)) : text = c :: rest ∧ accept c = true := by
  cases text with
  | nil => cases read
  | cons head more =>
      by_cases accepted : accept head = true
      · rw [Scan.next, if_pos accepted] at read
        obtain ⟨rfl, rfl⟩ := Prod.mk.inj (Option.some.inj read)
        exact ⟨rfl, accepted⟩
      · rw [Scan.next, if_neg accepted] at read
        cases read

/-- A text is accepted if it is read and nothing is left. -/
theorem run?_eq_some_iff {scan : Scan α} {text : String} {value : α} :
    scan.run? text = some value ↔ scan text.toList = some (value, []) := by
  unfold Scan.run?
  split
  · rename_i read
    rw [read, Option.some.injEq, Option.some.injEq, Prod.mk.injEq]
    exact (and_iff_left rfl).symm
  · rename_i other
    exact iff_of_false (Option.some_ne_none value).symm (other value)

end Scan

end Criteria
