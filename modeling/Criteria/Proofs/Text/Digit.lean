import Criteria.Proofs.Text.Scan
import Mathlib.Data.List.TakeWhile
import Mathlib.Data.Nat.Digits.Defs

/-!
# Numbers of fixed width

A number that is written with a fixed number of decimal digits is read by every scanner
that wants so many, and the alphabetic order of two such numbers is their order.
-/

namespace Criteria

namespace Digit

theorem isDigit_iff (c : Char) : c.isDigit = true ↔ 48 ≤ c.toNat ∧ c.toNat ≤ 57 := by
  simp only [Char.isDigit, Bool.and_eq_true, decide_eq_true_eq, ge_iff_le, UInt32.le_iff_toNat_le]
  rfl

theorem value_lt {c : Char} (digit : c.isDigit = true) : value c < 10 := by
  have code := (isDigit_iff c).1 digit
  show c.toNat - 48 < 10
  omega

theorem value_lt_value {first second : Char} (digit : first.isDigit = true)
    (less : first < second) : value first < value second := by
  have code := (isDigit_iff first).1 digit
  have codes : first.toNat < second.toNat := less
  show first.toNat - 48 < second.toNat - 48
  omega

theorem number_eq_ofDigits (run : List Char) :
    number run = Nat.ofDigits 10 (run.reverse.map value) := by
  rw [Nat.ofDigits_eq_foldr, List.foldr_map, List.foldr_reverse, number]
  congr 1
  funext total digit
  rw [Nat.cast_id, Nat.add_comm]

/-- The first digit counts the most. -/
theorem number_cons (c : Char) (run : List Char) :
    number (c :: run) = value c * 10 ^ run.length + number run := by
  rw [number_eq_ofDigits, number_eq_ofDigits, List.reverse_cons, List.map_append,
    Nat.ofDigits_append, List.length_map, List.length_reverse, List.map_singleton,
    Nat.ofDigits_singleton, Nat.mul_comm, Nat.add_comm]

theorem number_lt {run : List Char} (digits : ∀ c ∈ run, c.isDigit = true) :
    number run < 10 ^ run.length := by
  rw [number_eq_ofDigits, ← List.length_reverse, ← List.length_map (f := value)]
  refine Nat.ofDigits_lt_base_pow_length (by decide) fun n named => ?_
  obtain ⟨c, inside, rfl⟩ := List.mem_map.1 named
  exact value_lt (digits c (List.mem_reverse.1 inside))

/-- Among runs of one length, the alphabetic order is the order of the numbers. -/
theorem number_lt_number {first second : List Char}
    (same : first.length = second.length) (digits : ∀ c ∈ first, c.isDigit = true)
    (less : first < second) : number first < number second := by
  induction first generalizing second with
  | nil =>
      rw [List.eq_nil_of_length_eq_zero same.symm] at less
      exact absurd less (List.not_lt_nil [])
  | cons c run ih =>
      cases second with
      | nil => exact absurd less (List.not_lt_nil _)
      | cons d more =>
          have lengths : run.length = more.length := Nat.succ.inj same
          have inside : ∀ c ∈ run, c.isDigit = true :=
            fun c member => digits c (List.mem_cons_of_mem _ member)
          rw [number_cons, number_cons, ← lengths]
          rcases List.cons_lt_cons_iff.1 less with smaller | ⟨rfl, smaller⟩
          · -- the rest of the run cannot make up for a smaller first digit
            have bound := number_lt inside
            have step : (value c + 1) * 10 ^ run.length ≤ value d * 10 ^ run.length :=
              Nat.mul_le_mul_right _ (value_lt_value (digits c List.mem_cons_self) smaller)
            rw [Nat.add_one_mul] at step
            omega
          · exact Nat.add_lt_add_left (ih lengths inside smaller) _

/-- Of texts with fronts of one length, the fronts decide first. -/
theorem lt_of_append_lt_append {first second rest more : List Char}
    (same : first.length = second.length) (less : first ++ rest < second ++ more) :
    first < second ∨ first = second ∧ rest < more := by
  induction first generalizing second with
  | nil =>
      obtain rfl := List.eq_nil_of_length_eq_zero same.symm
      exact Or.inr ⟨rfl, less⟩
  | cons c run ih =>
      cases second with
      | nil => exact absurd same (Nat.succ_ne_zero _)
      | cons d others =>
          rcases List.cons_lt_cons_iff.1 less with smaller | ⟨rfl, behind⟩
          · exact Or.inl (List.cons_lt_cons_iff.2 (Or.inl smaller))
          · rcases ih (Nat.succ.inj same) behind with smaller | ⟨rfl, equal⟩
            · exact Or.inl (List.cons_lt_cons_iff.2 (Or.inr ⟨rfl, smaller⟩))
            · exact Or.inr ⟨rfl, equal⟩

/-- A number written with so many digits. -/
structure Block (count : Nat) where
  chars : List Char
  length_eq : chars.length = count
  all_digits : chars.all Char.isDigit = true

namespace Block

variable {count : Nat}

theorem digits (block : Block count) : ∀ c ∈ block.chars, c.isDigit = true :=
  List.all_eq_true.1 block.all_digits

def number (block : Block count) : Nat :=
  Nat.ofDigits 10 (block.chars.reverse.map value)

theorem number_eq (block : Block count) : block.number = Digit.number block.chars :=
  (number_eq_ofDigits block.chars).symm

theorem number_lt (block : Block count) : block.number < 10 ^ count := by
  have bound := Digit.number_lt block.digits
  rw [block.length_eq, ← number_eq] at bound
  exact bound

/-- A number that needs all its digits has no zero in front. -/
theorem head?_ne_zero {block : Block (count + 1)}
    (large : 10 ^ count ≤ block.number) : block.chars.head? ≠ some '0' := by
  obtain ⟨chars, length_eq, digits⟩ := block
  cases chars with
  | nil => cases length_eq
  | cons c rest =>
      intro zero
      obtain rfl : c = '0' := Option.some.inj zero
      have worth : value '0' = 0 := rfl
      have bound := Digit.number_lt fun d later =>
        List.all_eq_true.1 digits d (List.mem_cons_of_mem _ later)
      rw [Nat.succ.inj length_eq] at bound
      rw [number_eq, number_cons, worth, Nat.zero_mul, Nat.zero_add] at large
      exact Nat.not_lt_of_le large bound

theorem spanBetween_append {least : Nat} (block : Block count) (enough : least ≤ count)
    (rest : List Char) :
    Scan.spanBetween least count Char.isDigit (block.chars ++ rest) =
      some (block.chars, rest) := by
  have taken : ((block.chars ++ rest).take count).takeWhile Char.isDigit = block.chars := by
    rw [List.take_left' block.length_eq, List.takeWhile_eq_self_iff.2 block.digits]
  simp only [Scan.spanBetween, taken, block.length_eq, if_pos enough,
    List.drop_left' block.length_eq]

theorem exactly_append (block : Block count) (rest : List Char) :
    Digit.exactly count (block.chars ++ rest) = some (block.number, rest) := by
  rw [number_eq]
  exact Scan.map_of_some (block.spanBetween_append (Nat.le_refl count) rest) Digit.number

/-- A scanner of so many digits reads nothing else. -/
theorem exists_of_exactly {text rest : List Char} {n : Nat}
    (read : Digit.exactly count text = some (n, rest)) :
    ∃ block : Block count, text = block.chars ++ rest ∧ n = block.number := by
  obtain ⟨run, spanned, rfl⟩ := Scan.exists_of_map read
  have front := List.takeWhile_prefix Char.isDigit (l := text.take count)
  rw [Scan.spanBetween] at spanned
  by_cases enough : count ≤ ((text.take count).takeWhile Char.isDigit).length
  · rw [if_pos enough] at spanned
    obtain ⟨rfl, rfl⟩ := Prod.mk.inj (Option.some.inj spanned)
    have short := front.length_le
    have taken := List.length_take_le count text
    have whole : (text.take count).takeWhile Char.isDigit = text.take count :=
      front.eq_of_length (by omega)
    have length : (text.take count).length = count := by
      rw [whole] at enough
      omega
    rw [whole, length]
    have digits : (text.take count).all Char.isDigit = true := whole ▸ List.all_takeWhile
    let block : Block count := ⟨text.take count, length, digits⟩
    exact ⟨block, (List.take_append_drop count text).symm, block.number_eq.symm⟩
  · rw [if_neg enough] at spanned
    cases spanned

theorem upTo_append (block : Block count) (some : 1 ≤ count) (rest : List Char) :
    Digit.upTo count (block.chars ++ rest) = .some (block.number, rest) := by
  rw [number_eq]
  exact Scan.map_of_some (block.spanBetween_append some rest) Digit.number

theorem exists_head (block : Block count) (some : 1 ≤ count) :
    ∃ c more, block.chars = c :: more ∧ c.isDigit = true := by
  cases chars : block.chars with
  | nil =>
      rw [← block.length_eq, chars] at some
      exact absurd some (by decide)
  | cons c more => exact ⟨c, more, rfl, block.digits c (chars ▸ List.mem_cons_self)⟩

theorem number_lt_number {first second : Block count} (less : first.chars < second.chars) :
    first.number < second.number := by
  rw [number_eq, number_eq]
  exact Digit.number_lt_number (first.length_eq.trans second.length_eq.symm) first.digits less

/-- Two numbers of one width at the front of two texts decide the alphabetic order,
unless they are the same. -/
theorem append_lt_append {first second : Block count} {rest more : List Char}
    (less : first.chars ++ rest < second.chars ++ more) :
    first.number < second.number ∨ first.number = second.number ∧ rest < more := by
  have same : first.chars.length = second.chars.length :=
    first.length_eq.trans second.length_eq.symm
  rcases lt_of_append_lt_append same less with smaller | ⟨equal, behind⟩
  · exact Or.inl (number_lt_number smaller)
  · rw [number_eq, number_eq]
    exact Or.inr ⟨congrArg Digit.number equal, behind⟩

end Block

end Digit

end Criteria
