import Criteria.Number.Double
import Mathlib.Algebra.Order.Field.Rat
import Mathlib.Data.Rat.Cast.Order
import Mathlib.Tactic.Linarith
import Mathlib.Tactic.Positivity

/-!
# The rational number that a double stands for

A finite double is read off the three fields of its bits. Comparing it with an integer by
whole numbers alone compares the numbers.
-/

namespace Criteria.Double

/-! ## The fields of a double -/

/-- The biased power of two. -/
def exponentField (d : Double) : Nat := d.bits.toNat / 2 ^ 52 % 2 ^ 11

/-- The binary places behind the leading one. -/
def fractionField (d : Double) : Nat := d.bits.toNat % 2 ^ 52

/-- The number that a double stands for without its sign: with the least power of two the
places stand alone, and otherwise behind a leading one. -/
def absolute (d : Double) : ℚ :=
  if d.exponentField = 0 then d.fractionField / 2 ^ 1074
  else (2 ^ 52 + d.fractionField) * 2 ^ (d.exponentField - 1) / 2 ^ 1074

/-- The number that a double stands for; the infinities and what is no number stand for
none. -/
def rational? (d : Double) : Option ℚ :=
  if d.exponentField = 2047 then none
  else some (if 2 ^ 63 ≤ d.bits.toNat then -d.absolute else d.absolute)

theorem lowerBits_div (d : Double) : d.lowerBits / hiddenBit = d.exponentField := by
  unfold lowerBits hiddenBit signBit exponentField
  omega

theorem lowerBits_mod (d : Double) : d.lowerBits % hiddenBit = d.fractionField := by
  unfold lowerBits hiddenBit signBit fractionField
  omega

theorem isFinite_iff (d : Double) : d.isFinite = true ↔ d.exponentField ≠ 2047 := by
  unfold isFinite infinityBits lowerBits signBit exponentField
  rw [decide_eq_true_iff]
  omega

theorem isNegative_iff (d : Double) : d.isNegative = true ↔ 2 ^ 63 ≤ d.bits.toNat :=
  decide_eq_true_iff

/-! ## Whole factors -/

/-- The fields give the number that the significand and the scale give. -/
theorem absolute_eq (d : Double) : d.absolute = d.significand * 2 ^ d.scale / 2 ^ 1074 := by
  unfold absolute significand scale
  rw [lowerBits_div, lowerBits_mod]
  by_cases least : d.exponentField = 0
  · have lower : d.lowerBits = d.fractionField := by
      have parts := Nat.div_add_mod d.lowerBits hiddenBit
      rw [lowerBits_div, lowerBits_mod, least] at parts
      omega
    rw [if_pos least, if_pos least, least, lower]
    simp
  · rw [if_neg least, if_neg least]
    have hidden : hiddenBit = 2 ^ 52 := by decide
    rw [hidden]
    push_cast
    rfl

theorem fraction_pos (d : Double) : 0 < d.fraction.2 := by
  unfold fraction
  split
  · exact Nat.one_pos
  · exact Nat.pow_pos Nat.two_pos

/-- The number is the quotient that comparisons are made with. -/
theorem absolute_eq_fraction (d : Double) :
    d.absolute = (d.fraction.1 : ℚ) / (d.fraction.2 : ℚ) := by
  have base : (2 : ℚ) ^ 1074 ≠ 0 := by positivity
  rw [absolute_eq]
  unfold fraction
  by_cases large : 1074 ≤ d.scale
  · have split : (2 : ℚ) ^ d.scale = 2 ^ (d.scale - 1074) * 2 ^ 1074 := by
      rw [← pow_add, Nat.sub_add_cancel large]
    rw [if_pos large, split, ← mul_assoc, mul_div_assoc, div_self base]
    simp only [Nat.pow_eq, Nat.cast_mul, Nat.cast_pow, Nat.cast_ofNat, mul_one, Nat.cast_one,
      div_one]
  · have split : (2 : ℚ) ^ 1074 = 2 ^ (1074 - d.scale) * 2 ^ d.scale := by
      rw [← pow_add, Nat.sub_add_cancel (Nat.le_of_not_le large)]
    have factor : (2 : ℚ) ^ d.scale ≠ 0 := by positivity
    rw [if_neg large, split, mul_div_mul_right _ _ factor]
    simp only [Nat.pow_eq, Nat.cast_pow, Nat.cast_ofNat]

theorem absolute_eq_natCast_iff (d : Double) (n : Nat) :
    d.absolute = n ↔ d.fraction.1 = n * d.fraction.2 := by
  have positive : (d.fraction.2 : ℚ) ≠ 0 := Nat.cast_ne_zero.2 d.fraction_pos.ne'
  rw [absolute_eq_fraction, div_eq_iff positive]
  exact_mod_cast Iff.rfl

theorem absolute_nonneg (d : Double) : 0 ≤ d.absolute := by
  rw [absolute_eq]
  positivity

theorem neg_absolute_eq_iff (d : Double) (n : Int) :
    -d.absolute = n ↔ d.absolute = n.natAbs ∧ (n = 0 ∨ n < 0) := by
  have nonneg := d.absolute_nonneg
  rw [Nat.cast_natAbs, Int.cast_abs]
  constructor
  · intro same
    have atMost : (n : ℚ) ≤ 0 := by linarith
    rw [abs_of_nonpos atMost]
    exact ⟨by linarith, eq_or_lt_of_le (Int.cast_nonpos.1 atMost)⟩
  · rintro ⟨same, sign⟩
    have atMost : (n : ℚ) ≤ 0 := Int.cast_nonpos.2 (by omega)
    rw [abs_of_nonpos atMost] at same
    linarith

theorem absolute_eq_iff (d : Double) (n : Int) :
    d.absolute = n ↔ d.absolute = n.natAbs ∧ (n = 0 ∨ ¬n < 0) := by
  have nonneg := d.absolute_nonneg
  rw [Nat.cast_natAbs, Int.cast_abs]
  constructor
  · intro same
    have atLeast : 0 ≤ (n : ℚ) := by linarith
    rw [abs_of_nonneg atLeast]
    exact ⟨same, Or.inr (not_lt.2 (Int.cast_nonneg_iff.1 atLeast))⟩
  · rintro ⟨same, sign⟩
    have atLeast : 0 ≤ (n : ℚ) := Int.cast_nonneg_iff.2 (by omega)
    rw [same, abs_of_nonneg atLeast]

/-- A double equals an integer as a number if and only if the comparison by whole numbers
says so. -/
theorem equalsInt_iff (d : Double) (n : Int) :
    d.equalsInt n = true ↔ d.rational? = some (n : ℚ) := by
  have factors : (d.fraction.1 == n.natAbs * d.fraction.2) = true ↔ d.absolute = n.natAbs := by
    rw [beq_iff_eq, absolute_eq_natCast_iff]
  unfold equalsInt rational?
  by_cases special : d.exponentField = 2047
  · have infinite : d.isFinite = false := by
      rw [← Bool.not_eq_true, isFinite_iff]
      exact fun other => other special
    rw [infinite, if_pos special]
    simp
  · rw [(isFinite_iff d).2 special, if_neg special, Bool.true_and, Bool.and_eq_true, factors,
      Option.some.injEq, Bool.or_eq_true, beq_iff_eq, beq_iff_eq]
    by_cases negative : 2 ^ 63 ≤ d.bits.toNat
    · rw [if_pos negative, (isNegative_iff d).2 negative, neg_absolute_eq_iff, eq_comm (a := true),
        decide_eq_true_iff]
    · have positive : d.isNegative = false := by
        rw [← Bool.not_eq_true, isNegative_iff]
        exact negative
      rw [if_neg negative, positive, absolute_eq_iff, eq_comm (a := false),
        decide_eq_false_iff_not]

end Criteria.Double
