import Mathlib.Data.Real.Basic
import Expectation.Proofs.Binary64.Value
import Expectation.Value.Matching

/-!
# Integers within a tolerance

The comparison of integers rounds the tolerance down to a whole number, in words that may overflow. Neither
changes an answer: differences of integers are whole and far below the greatest word.

* `toNat_differenceWord`, `toNat_absWord`: the words of integers;
* `toNat_wholePart`, `toNat_scaledFloor`: the words of tolerances, exact or beyond every difference;
* `le_wholePart_iff`, `le_scaledFloor_iff`: the comparisons, counted in units;
* **`matching_int_within`**: integers match when their exact difference is within the exact tolerance.
-/

namespace Expectation

open Binary64

/-! ## Words of integers -/

section Words

variable (a b n : Int64)

theorem toNat_abs_eq_natAbs (word : Word128) : word.abs.toNat = word.toInt.natAbs := by
  have hlt := word.isLt
  rw [BitVec.toNat_abs, BitVec.toInt_eq_msb_cond]
  split <;> omega

theorem natAbs_sub_lt : (a.toInt - b.toInt).natAbs < 2 ^ 64 := by
  have := a.toInt_lt
  have := a.le_toInt
  have := b.toInt_lt
  have := b.le_toInt
  omega

theorem toInt_ofInt_toInt : (BitVec.ofInt 128 n.toInt).toInt = n.toInt := by
  have := n.toInt_lt
  have := n.le_toInt
  exact BitVec.toInt_ofInt_eq_self (by decide) (by omega) (by omega)

theorem toNat_differenceWord :
    (Tolerance.differenceWord a b).toNat = (a.toInt - b.toInt).natAbs := by
  have hlt := natAbs_sub_lt a b
  rw [Tolerance.differenceWord, toNat_abs_eq_natAbs, BitVec.toInt_sub, toInt_ofInt_toInt,
    toInt_ofInt_toInt, Int.bmod_eq_of_le (by omega) (by omega)]

theorem toNat_absWord : (Tolerance.absWord n).toNat = n.toInt.natAbs := by
  have := n.toInt_lt
  have := n.le_toInt
  rw [Tolerance.absWord, UInt64.toNat_ofNat']
  omega

end Words

/-! ## Words of tolerances -/

section Floors

variable {x : Binary64} {n : ℕ} {m : UInt64}

theorem toNat_wholePart (hx : x.isFinite = true) :
    (wholePart x).toNat = min (x.absUnits / unitsPerOne) (2 ^ 128 - 1) := by
  have hle : min (x.absUnits / unitsPerOne) (2 ^ 128 - 1) ≤ 2 ^ 128 - 1 := min_le_right _ _
  rw [wholePart, floorSaturating, if_pos hx, BitVec.toNat_ofNat, BitVec.toNat_allOnes]
  exact Nat.mod_eq_of_lt (by omega)

theorem product_lt (m : UInt64) (x : Binary64) : m.toNat * x.significand < 2 ^ 117 := calc
  m.toNat * x.significand < 2 ^ 64 * 2 ^ 53 := Nat.mul_lt_mul'' m.toNat_lt x.significand_lt
  _ = 2 ^ 117 := (pow_add 2 64 53).symm

theorem toNat_product (m : UInt64) (x : Binary64) :
    (.ofNat 128 m.toNat * .ofNat 128 x.significand : Word128).toNat = m.toNat * x.significand := by
  rw [BitVec.toNat_mul, BitVec.toNat_ofNat, BitVec.toNat_ofNat, ← Nat.mul_mod]
  exact Nat.mod_eq_of_lt ((product_lt m x).trans (by decide))

theorem toNat_shiftLeft_saturating (word : Word128) (shift : ℕ) :
    (if word = 0 then 0 else if word.clz.toNat ≤ shift then .allOnes 128
      else word <<< shift : Word128).toNat =
      if word.toNat * 2 ^ shift < 2 ^ 127 then word.toNat * 2 ^ shift else 2 ^ 128 - 1 := by
  by_cases hzero : word = 0
  · simp [hzero]
  rw [if_neg hzero]
  -- the leading zeros tell the length of the word to the bit
  have hlower : 2 ^ (127 - word.clz.toNat) ≤ word.toNat :=
    BitVec.two_pow_sub_clz_le_toNat_of_ne_zero (by decide) hzero
  have hupper : word.toNat < 2 ^ (128 - word.clz.toNat) := BitVec.toNat_lt_two_pow_sub_clz
  have hclz : word.clz.toNat ≤ 127 := by
    have hlt : word.clz < 128 := BitVec.clz_lt_iff_ne_zero.mpr hzero
    exact Nat.le_of_lt_succ (BitVec.lt_def.mp hlt)
  by_cases hfits : word.clz.toNat ≤ shift
  · have hlarge : 2 ^ 127 ≤ word.toNat * 2 ^ shift := calc
      2 ^ 127 = 2 ^ (127 - word.clz.toNat) * 2 ^ word.clz.toNat := by
        rw [← pow_add, Nat.sub_add_cancel hclz]
      _ ≤ word.toNat * 2 ^ shift := Nat.mul_le_mul hlower (Nat.pow_le_pow_right (by decide) hfits)
    rw [if_pos hfits, if_neg (Nat.not_lt.mpr hlarge), BitVec.toNat_allOnes]
  · have hshift : 128 - word.clz.toNat + shift ≤ 127 := by omega
    have hsmall : word.toNat * 2 ^ shift < 2 ^ 127 := calc
      word.toNat * 2 ^ shift < 2 ^ (128 - word.clz.toNat) * 2 ^ shift :=
        Nat.mul_lt_mul_of_pos_right hupper (Nat.two_pow_pos shift)
      _ = 2 ^ (128 - word.clz.toNat + shift) := (pow_add _ _ _).symm
      _ ≤ 2 ^ 127 := Nat.pow_le_pow_right (by decide) hshift
    rw [if_neg hfits, if_pos hsmall, BitVec.toNat_shiftLeft, Nat.shiftLeft_eq]
    exact Nat.mod_eq_of_lt (hsmall.trans (by decide))

theorem toNat_shiftRight_checked (word : Word128) (shift : ℕ) :
    (if shift < 128 then word >>> shift else 0 : Word128).toNat = word.toNat / 2 ^ shift := by
  split
  · rw [BitVec.toNat_ushiftRight, Nat.shiftRight_eq_div_pow]
  · rename_i hshift
    have hlt : word.toNat < 2 ^ shift :=
      word.isLt.trans_le (Nat.pow_le_pow_right (by decide) (Nat.not_lt.mp hshift))
    exact (Nat.div_eq_of_lt hlt).symm

/-- **The product with a double** is rounded down exactly as far as 127 bits suffice. -/
theorem toNat_scaledFloor (hx : x.isFinite = true) (m : UInt64) :
    (scaledFloor m x).toNat =
      let floor := m.toNat * x.absUnits / unitsPerOne
      if floor < 2 ^ 127 then floor else 2 ^ 128 - 1 := by
  rw [scaledFloor, isInfinite_of_isFinite hx, if_neg Bool.false_ne_true]
  dsimp only
  by_cases hexponent : 1075 ≤ max x.exponentField 1
  · rw [if_pos hexponent, toNat_shiftLeft_saturating, toNat_product, x.mul_absUnits_div_of_le hexponent]
  · have hsmall : m.toNat * x.significand / 2 ^ (1075 - max x.exponentField 1) < 2 ^ 127 :=
      (Nat.div_le_self _ _).trans_lt ((product_lt m x).trans (by decide))
    rw [if_neg hexponent, toNat_shiftRight_checked, toNat_product,
      x.mul_absUnits_div_of_lt (Nat.not_le.mp hexponent), if_pos hsmall]

/-! ## Comparisons of words -/

theorem le_wholePart_iff (hx : x.isFinite = true) (hn : n < 2 ^ 128) :
    n ≤ (wholePart x).toNat ↔ n * unitsPerOne ≤ x.absUnits := by
  rw [toNat_wholePart hx, le_min_iff, and_iff_left (by omega), Nat.le_div_iff_mul_le unitsPerOne_pos]

theorem le_scaledFloor_iff (hx : x.isFinite = true) (hn : n < 2 ^ 127) :
    n ≤ (scaledFloor m x).toNat ↔ n * unitsPerOne ≤ m.toNat * x.absUnits := by
  rw [toNat_scaledFloor hx, ← Nat.le_div_iff_mul_le unitsPerOne_pos]
  dsimp only
  split
  · rfl
  · exact iff_of_true (by omega) (by omega)

end Floors

/-! ## Integers -/

namespace Tolerance

variable (a b : Int64) (amount : Binary64)

/-- **A linear tolerance** admits the integers whose difference is no more than the amount. -/
theorem admitsIntegers_linear_iff : admitsIntegers ⟨amount, .linear⟩ a b = true ↔
    amount.isNaN = false ∧
      (amount = infinity false ∨
        amount.isFinite = true ∧ ((|a.toInt - b.toInt| : ℤ) : ℚ) ≤ amount.value) := by
  cases hnan : amount.isNaN with
  | true => simp [admitsIntegers, hnan]
  | false =>
    have hlt := natAbs_sub_lt a b
    have hword : admitsIntegers ⟨amount, .linear⟩ a b = true ↔
        Binary64.le (.zero false) amount = true ∧
          (a.toInt - b.toInt).natAbs ≤ (wholePart amount).toNat := by
      simp [admitsIntegers, hnan, BitVec.le_def, toNat_differenceWord]
    rw [hword]
    rcases amount.cases_of_not_isNaN hnan with hfinite | rfl | rfl
    · have hne : amount ≠ infinity false := fun heq => by
        rw [heq] at hfinite
        exact absurd hfinite (by decide)
      rw [le_wholePart_iff hfinite (by omega), ← Nat.cast_natAbs, amount.natCast_le_value_iff hnan]
      simp [hne, hfinite]
    · have hle : (a.toInt - b.toInt).natAbs ≤ 2 ^ 128 - 1 := by omega
      exact iff_of_true ⟨by decide, hle⟩ ⟨rfl, .inl rfl⟩
    · refine iff_of_false (fun h => absurd h.1 (by decide)) ?_
      rintro ⟨-, heq | ⟨hfinite, -⟩⟩
      · exact absurd heq (by decide)
      · exact absurd hfinite (by decide)

theorem toNat_differenceWord_mul_hundred :
    (differenceWord a b * 100).toNat = 100 * (a.toInt - b.toInt).natAbs := by
  have hlt := natAbs_sub_lt a b
  have hhundred : (100 : Word128).toNat = 100 := rfl
  rw [BitVec.toNat_mul, toNat_differenceWord, hhundred, mul_comm]
  exact Nat.mod_eq_of_lt (by omega)

/-- **A tolerance in percent** admits the integers of which a hundred times the difference is no more
than the product of the expected one and the amount. -/
theorem admitsIntegers_percent_iff : admitsIntegers ⟨amount, .percent⟩ a b = true ↔
    amount.isInfinite = true ∨
      amount.isFinite = true ∧
        100 * ((|a.toInt - b.toInt| : ℤ) : ℚ) ≤ ((|a.toInt| : ℤ) : ℚ) * |amount.value| := by
  have hlt := natAbs_sub_lt a b
  have hword (hnan : amount.isNaN = false) : admitsIntegers ⟨amount, .percent⟩ a b = true ↔
      100 * (a.toInt - b.toInt).natAbs ≤ (scaledFloor (absWord a) amount).toNat := by
    rw [← toNat_differenceWord_mul_hundred, ← BitVec.le_def]
    simp [admitsIntegers, hnan]
  cases hinfinite : amount.isInfinite with
  | true =>
    have hnan : amount.isNaN = false := isNaN_of_isInfinite hinfinite
    rw [hword hnan, scaledFloor, hinfinite, if_pos rfl, BitVec.toNat_allOnes]
    exact iff_of_true (by omega) (.inl rfl)
  | false =>
    cases hfinite : amount.isFinite with
    | true =>
      have hnan : amount.isNaN = false := isNaN_of_isFinite hfinite
      have hvalue := amount.natCast_le_mul_abs_value_iff (100 * (a.toInt - b.toInt).natAbs) a.toInt.natAbs
      rw [hword hnan, le_scaledFloor_iff hfinite (by omega), toNat_absWord, ← hvalue, Nat.cast_mul,
        Nat.cast_natAbs, Nat.cast_natAbs]
      simp
    | false =>
      have hnan : amount.isNaN = true := isNaN_of_not hfinite hinfinite
      simp [admitsIntegers, hnan]

end Tolerance

/-- **Integers are compared exactly.** An absolute tolerance admits just the integers that differ, as real
numbers, by no more than the amount; the positive infinity admits all, and an amount below zero none. A
tolerance in percent admits just those of which a hundred times the difference is, as a rational number,
no more than the expected integer times the amount; either infinity admits all. A NaN admits none. -/
theorem matching_int_within (expected actual : Int64) (amount : Binary64) (ignoreCase : Bool) :
    ((Value.int expected).matching (some ⟨amount, .linear⟩) ignoreCase (.int actual) = true ↔
      amount.isNaN = false ∧
        (amount = infinity false ∨
          amount.isFinite = true ∧
            ((|expected.toInt - actual.toInt| : ℤ) : ℝ) ≤ (amount.value : ℝ))) ∧
    ((Value.int expected).matching (some ⟨amount, .percent⟩) ignoreCase (.int actual) = true ↔
      amount.isInfinite = true ∨
        amount.isFinite = true ∧
          100 * ((|expected.toInt - actual.toInt| : ℤ) : ℚ) ≤
            ((|expected.toInt| : ℤ) : ℚ) * |amount.value|) := by
  have hreal : ((|expected.toInt - actual.toInt| : ℤ) : ℝ) ≤ (amount.value : ℝ) ↔
      ((|expected.toInt - actual.toInt| : ℤ) : ℚ) ≤ amount.value := by
    rw [← Rat.cast_intCast, Rat.cast_le]
  rw [hreal]
  exact ⟨Tolerance.admitsIntegers_linear_iff expected actual amount,
    Tolerance.admitsIntegers_percent_iff expected actual amount⟩

end Expectation
