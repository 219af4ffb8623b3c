import Mathlib.Algebra.Order.Field.Power
import Mathlib.Data.Rat.Cast.Order
import Mathlib.Tactic.Linarith
import Mathlib.Tactic.Positivity
import Expectation.Binary64.Arithmetic

/-!
# The value of a double

A finite double stands for a rational number, its significand times a power of two.

* `value`: this number;
* `abs_value`, `abs_value_mul_unitsPerOne`: its absolute value, and the units that this counts;
* `mul_absUnits_div_of_le`, `mul_absUnits_div_of_lt`: whole parts of products, by shifts;
* `natCast_le_mul_abs_value_iff`: products with the absolute value are compared without fractions;
* `natCast_le_value_iff`: so is the value itself, when it is not negative;
* `cases_of_not_isNaN`: infinite and finite numbers.
-/

namespace Expectation.Binary64

variable (x : Binary64)

/-- The value of a finite number: the significand, of which the last bit counts
`2 ^ (exponentField - 1075)`, an empty exponent field being read as one. -/
def value : ℚ :=
  (if x.negative then -1 else 1) * (x.significand * 2 ^ ((max x.exponentField 1 : ℕ) - 1075 : ℤ))

/-! ## Units -/

theorem cast_one_shiftLeft (n : ℕ) : ((1 <<< n : ℕ) : ℚ) = 2 ^ (n : ℤ) := by
  rw [Nat.one_shiftLeft, Nat.cast_pow, Nat.cast_ofNat, zpow_natCast]

theorem unitsPerOne_pos : 0 < unitsPerOne := by
  rw [unitsPerOne, Nat.one_shiftLeft]
  positivity

theorem significand_lt : x.significand < 2 ^ 53 := by
  have hfraction : x.fraction < 1 <<< 52 := Nat.mod_lt _ (by decide)
  rw [significand]
  split <;> omega

theorem absUnits_eq : x.absUnits = x.significand * 2 ^ (max x.exponentField 1 - 1) := by
  have hexponent : max x.exponentField 1 - 1 = x.exponentField - 1 := by omega
  rw [absUnits, Nat.shiftLeft_eq, hexponent]

theorem two_pow_mul_one_shiftLeft (k n : ℕ) : 2 ^ k * (1 <<< n) = 2 ^ (k + n) := by
  rw [Nat.one_shiftLeft, pow_add]

theorem two_pow_mul_unitsPerOne (k : ℕ) : 2 ^ k * unitsPerOne = 2 ^ (k + 1074) :=
  two_pow_mul_one_shiftLeft k 1074

theorem two_zpow_mul_unitsPerOne (e : ℕ) (h : 1 ≤ e) :
    (2 : ℚ) ^ (e - 1075 : ℤ) * unitsPerOne = 2 ^ (e - 1) := by
  have hexponent : (e - 1075 : ℤ) + (1074 : ℕ) = (e - 1 : ℕ) := by omega
  rw [unitsPerOne, cast_one_shiftLeft, ← zpow_add₀ two_ne_zero, hexponent, zpow_natCast]

theorem abs_value : |x.value| = x.significand * 2 ^ ((max x.exponentField 1 : ℕ) - 1075 : ℤ) := by
  have hpos : (0 : ℚ) ≤ x.significand * 2 ^ ((max x.exponentField 1 : ℕ) - 1075 : ℤ) := by positivity
  rw [value]
  split
  · rw [neg_one_mul, abs_neg, abs_of_nonneg hpos]
  · rw [one_mul, abs_of_nonneg hpos]

theorem abs_value_mul_unitsPerOne : |x.value| * unitsPerOne = x.absUnits := by
  rw [abs_value, mul_assoc, two_zpow_mul_unitsPerOne _ (le_max_right _ _), absUnits_eq]
  push_cast
  rfl

theorem value_eq_abs (h : x.negative = false) : x.value = |x.value| := by
  rw [abs_value, value, h]
  simp

theorem value_eq_neg_abs (h : x.negative = true) : x.value = -|x.value| := by
  rw [abs_value, value, h]
  simp

/-! ## Whole parts of products -/

theorem mul_absUnits_div_of_le (h : 1075 ≤ max x.exponentField 1) (m : ℕ) :
    m * x.absUnits / unitsPerOne = m * x.significand * 2 ^ (max x.exponentField 1 - 1075) := by
  have hexponent : max x.exponentField 1 - 1 = max x.exponentField 1 - 1075 + 1074 := by omega
  rw [absUnits_eq, hexponent, ← two_pow_mul_unitsPerOne, ← mul_assoc, ← mul_assoc]
  exact Nat.mul_div_cancel _ unitsPerOne_pos

theorem mul_absUnits_div_of_lt (h : max x.exponentField 1 < 1075) (m : ℕ) :
    m * x.absUnits / unitsPerOne = m * x.significand / 2 ^ (1075 - max x.exponentField 1) := by
  have hexponent : 0 + 1074 = (1075 - max x.exponentField 1) + (max x.exponentField 1 - 1) := by omega
  have hunits : unitsPerOne = 2 ^ (1075 - max x.exponentField 1) * 2 ^ (max x.exponentField 1 - 1) := by
    rw [← pow_add, ← hexponent, ← two_pow_mul_unitsPerOne, pow_zero, one_mul]
  rw [absUnits_eq, hunits, ← mul_assoc]
  exact Nat.mul_div_mul_right _ _ (Nat.two_pow_pos _)

/-! ## Comparisons -/

/-- **Products with the absolute value** are compared in units. -/
theorem natCast_le_mul_abs_value_iff (n m : ℕ) :
    (n : ℚ) ≤ m * |x.value| ↔ n * unitsPerOne ≤ m * x.absUnits := by
  have hpos : (0 : ℚ) < unitsPerOne := Nat.cast_pos.mpr unitsPerOne_pos
  calc (n : ℚ) ≤ m * |x.value|
      ↔ (n : ℚ) * unitsPerOne ≤ m * |x.value| * unitsPerOne := (mul_le_mul_iff_left₀ hpos).symm
    _ ↔ (n : ℚ) * unitsPerOne ≤ m * x.absUnits := by rw [mul_assoc (m : ℚ), abs_value_mul_unitsPerOne]
    _ ↔ n * unitsPerOne ≤ m * x.absUnits := by exact_mod_cast Iff.rfl

theorem significand_eq_zero_iff : x.significand = 0 ↔ x.magnitude = 0 := by
  have hfields : (1 <<< 52) * x.exponentField + x.fraction = x.magnitude := Nat.div_add_mod _ _
  have hpos : 0 < 1 <<< 52 := by decide
  rw [significand]
  split
  · rename_i hexponent
    rw [← hfields, hexponent, Nat.mul_zero, Nat.zero_add]
  · rename_i hexponent
    have hproduct : 0 < (1 <<< 52) * x.exponentField :=
      Nat.mul_pos hpos (Nat.pos_of_ne_zero hexponent)
    omega

theorem abs_value_eq_zero_iff : |x.value| = 0 ↔ x.magnitude = 0 := by
  have hpower : (2 : ℚ) ^ ((max x.exponentField 1 : ℕ) - 1075 : ℤ) ≠ 0 := zpow_ne_zero _ two_ne_zero
  rw [abs_value, mul_eq_zero, or_iff_left hpower, Nat.cast_eq_zero, significand_eq_zero_iff]

theorem zero_le_iff : Binary64.le (zero false) x = true ↔
    x.isNaN = false ∧ (x.negative = false ∨ x.magnitude = 0) := by
  have hzero : (zero false).isNaN = false := by decide
  have hkey : (zero false).key = 0 := by decide
  rw [Binary64.le, hzero, hkey, key]
  cases x.negative <;> simp

/-- **A number that is not below zero** is compared by its absolute value; all others are below. -/
theorem natCast_le_value_iff (hx : x.isNaN = false) (n : ℕ) :
    (n : ℚ) ≤ x.value ↔ Binary64.le (zero false) x = true ∧ n * unitsPerOne ≤ x.absUnits := by
  have habs := x.natCast_le_mul_abs_value_iff n 1
  rw [Nat.cast_one, one_mul, one_mul] at habs
  rw [zero_le_iff, ← habs]
  cases hsign : x.negative with
  | false => simp [hx, ← x.value_eq_abs hsign]
  | true =>
    have hn : (0 : ℚ) ≤ n := Nat.cast_nonneg n
    have hvalue := x.value_eq_neg_abs hsign
    by_cases hzero : x.magnitude = 0
    · have hvalue' : |x.value| = 0 := x.abs_value_eq_zero_iff.mpr hzero
      rw [hvalue, hvalue', neg_zero]
      simp [hx, hzero]
    · have hpos : 0 < |x.value| :=
        lt_of_le_of_ne (abs_nonneg _) fun heq => hzero (x.abs_value_eq_zero_iff.mp heq.symm)
      constructor
      · intro hle
        linarith
      · rintro ⟨⟨-, hfalse | hzero'⟩, -⟩
        · exact Bool.noConfusion hfalse
        · exact absurd hzero' hzero

/-! ## Classes -/

section Classes

variable {x}

theorem isNaN_of_isInfinite (h : x.isInfinite = true) : x.isNaN = false := by
  simp only [isNaN, isInfinite, decide_eq_true_eq, decide_eq_false_iff_not] at *
  omega

theorem isNaN_of_isFinite (h : x.isFinite = true) : x.isNaN = false := by
  simp only [isNaN, isFinite, decide_eq_true_eq, decide_eq_false_iff_not] at *
  omega

theorem isInfinite_of_isFinite (h : x.isFinite = true) : x.isInfinite = false := by
  simp only [isFinite, isInfinite, decide_eq_true_eq, decide_eq_false_iff_not] at *
  omega

theorem isNaN_of_not (hfinite : x.isFinite = false) (hinfinite : x.isInfinite = false) :
    x.isNaN = true := by
  simp only [isNaN, isFinite, isInfinite, decide_eq_true_eq, decide_eq_false_iff_not] at *
  omega

end Classes

theorem eq_make : x = make x.negative x.magnitude := by
  have hlt := x.bits.toNat_lt
  have hpower : 1 <<< 63 = 2 ^ 63 := Nat.one_shiftLeft 63
  have hword : x.bits.toNat = if x.negative then 1 <<< 63 + x.magnitude else x.magnitude := by
    rw [negative, magnitude, hpower]
    split <;> simp_all <;> omega
  rw [make, ← hword, UInt64.ofNat_toNat]

theorem eq_infinity (h : x.isInfinite = true) : x = infinity x.negative := by
  rw [isInfinite, decide_eq_true_eq] at h
  rw [infinity, ← h]
  exact x.eq_make

theorem cases_of_not_isNaN (h : x.isNaN = false) :
    x.isFinite = true ∨ x = infinity false ∨ x = infinity true := by
  by_cases hinfinite : x.isInfinite = true
  · have heq := x.eq_infinity hinfinite
    cases hsign : x.negative with
    | false => exact .inr (.inl (hsign ▸ heq))
    | true => exact .inr (.inr (hsign ▸ heq))
  · left
    simp only [isNaN, isInfinite, isFinite, decide_eq_false_iff_not, decide_eq_true_eq] at *
    omega

end Expectation.Binary64
