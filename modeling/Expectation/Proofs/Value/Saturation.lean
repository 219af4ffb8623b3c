import Mathlib.Algebra.Order.Floor.Semifield
import Mathlib.Data.Rat.Floor
import Expectation.Proofs.Value.Tolerance

/-!
# Words that never overflow

The comparison of integers multiplies, subtracts and shifts words of 128 bits. None of these operations
overflows, and a word that stands for all that do not fit is greater than every difference it is compared
with.

* `Binary64.mantissa`, `Binary64.exponent`: a finite number as a whole number times a power of two;
* `minus?`, `times?`, `shiftLeft?`, `shiftRight?`: operations on words that refuse to overflow;
* `scaledFloor?`, `Tolerance.admitsIntegers?`: the comparison with these operations;
* `Saturates`, `Saturates.le_iff`: words that are exact as far as 127 bits suffice, and what they are
  compared with;
* **`scaledFloor_saturates`**: the product with a double is such a word, and nothing overflows.
-/

namespace Expectation

/-! ## Decoded numbers -/

namespace Binary64

variable (x : Binary64)

/-- The significand, counted in steps of `2 ^ exponent`. Where the exponent field is empty these steps are
half a unit. -/
def mantissa : ℕ := if x.exponentField = 0 then x.fraction <<< 1 else 1 <<< 52 + x.fraction

/-- The power of two that the last bit of the mantissa counts. -/
def exponent : ℤ := x.exponentField - 1075

theorem mantissa_lt : x.mantissa < 2 ^ 53 := by
  have hfraction : x.fraction < 1 <<< 52 := Nat.mod_lt _ (by decide)
  rw [mantissa, Nat.shiftLeft_eq]
  split <;> omega

theorem abs_value_eq_mantissa : |x.value| = x.mantissa * 2 ^ x.exponent := by
  rw [abs_value, mantissa, significand, exponent]
  by_cases hempty : x.exponentField = 0
  · have hexponent : ((max 0 1 : ℕ) - 1075 : ℤ) = 1 + ((0 : ℕ) - 1075 : ℤ) := by omega
    rw [if_pos hempty, if_pos hempty, hempty, hexponent, zpow_one_add₀ two_ne_zero, Nat.shiftLeft_eq,
      Nat.cast_mul, ← mul_assoc, pow_one, Nat.cast_two]
  · rw [if_neg hempty, if_neg hempty, max_eq_left (Nat.one_le_iff_ne_zero.mpr hempty)]

theorem exponent_bounds (h : x.isFinite = true) : -1075 ≤ x.exponent ∧ x.exponent ≤ 971 := by
  rw [isFinite, decide_eq_true_eq] at h
  have hfield : x.exponentField < 2047 := Nat.div_lt_of_lt_mul h
  rw [exponent]
  omega

theorem abs_value_eq_div : |x.value| = x.absUnits / unitsPerOne := by
  have hpos : (unitsPerOne : ℚ) ≠ 0 := Nat.cast_ne_zero.mpr unitsPerOne_pos.ne'
  rw [eq_div_iff hpos, abs_value_mul_unitsPerOne]

theorem floor_mul_abs_value (m : ℕ) : ⌊(m : ℚ) * |x.value|⌋₊ = m * x.absUnits / unitsPerOne := by
  rw [abs_value_eq_div, ← mul_div_assoc, ← Nat.cast_mul, Nat.floor_div_eq_div]

end Binary64

/-! ## Operations that refuse to overflow -/

section Words

variable {v w : Word128} {n : ℕ}

/-- The difference of signed words, if it fits. -/
def minus? (v w : Word128) : Option Word128 := if v.ssubOverflow w then none else some (v - w)

/-- The product of words, if it fits. -/
def times? (v w : Word128) : Option Word128 := if v.umulOverflow w then none else some (v * w)

/-- A word shifted to the left by less than its length, if no bit of it is lost. -/
def shiftLeft? (v : Word128) (n : ℕ) : Option Word128 :=
  if n < 128 ∧ v.toNat * 2 ^ n < 2 ^ 128 then some (v <<< n) else none

/-- A word shifted to the right by less than its length. -/
def shiftRight? (v : Word128) (n : ℕ) : Option Word128 := if n < 128 then some (v >>> n) else none

theorem minus?_ofInt (a b : Int64) :
    minus? (.ofInt 128 a.toInt) (.ofInt 128 b.toInt) =
      some (.ofInt 128 a.toInt - .ofInt 128 b.toInt) := by
  have hlt := natAbs_sub_lt a b
  have hfits : (BitVec.ofInt 128 a.toInt).ssubOverflow (.ofInt 128 b.toInt) = false := by
    rw [BitVec.ssubOverflow, toInt_ofInt_toInt, toInt_ofInt_toInt, Bool.or_eq_false_iff,
      decide_eq_false_iff_not, decide_eq_false_iff_not]
    omega
  rw [minus?, hfits, if_neg Bool.false_ne_true]

theorem times?_eq_some (h : v.toNat * w.toNat < 2 ^ 128) : times? v w = some (v * w) := by
  have hfits : v.umulOverflow w = false := decide_eq_false (Nat.not_le.mpr h)
  rw [times?, hfits, if_neg Bool.false_ne_true]

theorem shiftLeft?_eq_some (hv : v ≠ 0) (h : n < v.clz.toNat) : shiftLeft? v n = some (v <<< n) := by
  have hclz : v.clz.toNat < 128 := BitVec.lt_def.mp (BitVec.clz_lt_iff_ne_zero.mpr hv)
  have hfits : v.toNat * 2 ^ n < 2 ^ 128 := calc
    v.toNat * 2 ^ n < 2 ^ (128 - v.clz.toNat) * 2 ^ n :=
      Nat.mul_lt_mul_of_pos_right BitVec.toNat_lt_two_pow_sub_clz (Nat.two_pow_pos n)
    _ = 2 ^ (128 - v.clz.toNat + n) := (pow_add _ _ _).symm
    _ ≤ 2 ^ 128 := Nat.pow_le_pow_right (by decide) (by omega)
  exact if_pos ⟨h.trans hclz, hfits⟩

end Words

/-! ## The comparison without overflow -/

/-- `scaledFloor` by operations that refuse to overflow. Of a word that is shifted to the right by its
length or more, nothing is left. -/
def scaledFloor? (magnitude : UInt64) (factor : Binary64) : Option Word128 :=
  if factor.isInfinite then some (.allOnes 128)
  else do
    let product ← times? (.ofNat 128 magnitude.toNat) (.ofNat 128 factor.mantissa)
    let shift := factor.exponent.natAbs
    if 0 ≤ factor.exponent then
      if product = 0 then some 0
      else if product.clz.toNat ≤ shift then some (.allOnes 128)
      else shiftLeft? product shift
    else some ((shiftRight? product shift).getD 0)

/-- `Tolerance.admitsIntegers` by operations that refuse to overflow. -/
def Tolerance.admitsIntegers? (t : Tolerance) (expected actual : Int64) : Option Bool :=
  if t.amount.isNaN then some false
  else do
    let difference ← minus? (.ofInt 128 expected.toInt) (.ofInt 128 actual.toInt)
    match t.mode with
    | .percent => do
      let hundredfold ← times? difference.abs 100
      let bound ← scaledFloor? (absWord expected) t.amount
      some (decide (hundredfold ≤ bound))
    | .linear | .fallback =>
      some (Binary64.le (.zero false) t.amount && decide (difference.abs ≤ wholePart t.amount))

section Unwrapped

variable (m : UInt64) (x : Binary64)

theorem product_mantissa_lt : m.toNat * x.mantissa < 2 ^ 117 := calc
  m.toNat * x.mantissa < 2 ^ 64 * 2 ^ 53 := Nat.mul_lt_mul'' m.toNat_lt x.mantissa_lt
  _ = 2 ^ 117 := (pow_add 2 64 53).symm

theorem times?_mantissa :
    times? (.ofNat 128 m.toNat) (.ofNat 128 x.mantissa) =
      some (.ofNat 128 m.toNat * .ofNat 128 x.mantissa) := by
  refine times?_eq_some (lt_of_le_of_lt (Nat.mul_le_mul ?_ ?_) ((product_mantissa_lt m x).trans (by decide)))
  · exact (BitVec.toNat_ofNat ..).trans_le (Nat.mod_le _ _)
  · exact (BitVec.toNat_ofNat ..).trans_le (Nat.mod_le _ _)

/-- **No step of the product overflows.** -/
theorem scaledFloor?_eq : scaledFloor? m x = some (scaledFloor m x) := by
  rw [scaledFloor?, scaledFloor]
  split
  · rfl
  rw [times?_mantissa, Option.bind_eq_bind, Option.bind_some]
  dsimp only
  by_cases hempty : x.exponentField = 0
  · -- the numbers without an exponent are too small to leave anything
    have hexponent : x.exponent = -1075 := by rw [Binary64.exponent, hempty]; rfl
    rw [hexponent, hempty]
    rfl
  have hmantissa : x.mantissa = x.significand := by
    rw [Binary64.mantissa, Binary64.significand, if_neg hempty, if_neg hempty]
  have hmax : max x.exponentField 1 = x.exponentField := max_eq_left (Nat.one_le_iff_ne_zero.mpr hempty)
  rw [hmantissa, hmax]
  generalize (.ofNat 128 m.toNat * .ofNat 128 x.significand : Word128) = product
  by_cases hle : 1075 ≤ x.exponentField
  · have hnonneg : 0 ≤ x.exponent := by rw [Binary64.exponent]; omega
    have hshift : x.exponent.natAbs = x.exponentField - 1075 := by rw [Binary64.exponent]; omega
    rw [if_pos hnonneg, if_pos hle, hshift]
    split
    · rfl
    · rename_i hproduct
      split
      · rfl
      · rename_i hlt
        exact shiftLeft?_eq_some hproduct (Nat.not_le.mp hlt)
  · have hneg : ¬ 0 ≤ x.exponent := by rw [Binary64.exponent]; omega
    have hshift : x.exponent.natAbs = 1075 - x.exponentField := by rw [Binary64.exponent]; omega
    rw [if_neg hneg, if_neg hle, hshift, shiftRight?]
    split <;> rfl

/-- **No step of the comparison overflows.** -/
theorem admitsIntegers?_eq (t : Tolerance) (a b : Int64) :
    t.admitsIntegers? a b = some (t.admitsIntegers a b) := by
  rw [Tolerance.admitsIntegers?, Tolerance.admitsIntegers]
  split
  · rfl
  rw [minus?_ofInt, Option.bind_eq_bind, Option.bind_some]
  have hlt := natAbs_sub_lt a b
  have hfits : (Tolerance.differenceWord a b).toNat * (100 : Word128).toNat < 2 ^ 128 := by
    have hhundred : (100 : Word128).toNat = 100 := rfl
    rw [toNat_differenceWord, hhundred]
    omega
  have htimes := times?_eq_some hfits
  rw [Tolerance.differenceWord] at htimes ⊢
  cases t.mode with
  | linear | fallback => rfl
  | percent =>
    dsimp only
    rw [htimes, scaledFloor?_eq]
    rfl

end Unwrapped

/-! ## Saturation -/

/-- The word stands for a number: it is the number itself where 127 bits suffice, and needs more of them where
the number does. -/
def Saturates (word : Word128) (exact : ℕ) : Prop :=
  if exact < 2 ^ 127 then word.toNat = exact else 2 ^ 127 ≤ word.toNat

section Saturation

variable {word : Word128} {exact n : ℕ} {x : Binary64}

/-- **A word that saturates** compares with smaller numbers as what it stands for. -/
theorem Saturates.le_iff (h : Saturates word exact) (hn : n < 2 ^ 127) :
    n ≤ word.toNat ↔ n ≤ exact := by
  rw [Saturates] at h
  split at h <;> omega

theorem saturates_scaledFloor (hx : x.isFinite = true) (m : UInt64) :
    Saturates (scaledFloor m x) ⌊(m.toNat : ℚ) * |x.value|⌋₊ := by
  rw [x.floor_mul_abs_value, Saturates, toNat_scaledFloor hx]
  dsimp only
  split
  · rfl
  · decide

theorem saturates_wholePart (hx : x.isFinite = true) : Saturates (wholePart x) ⌊|x.value|⌋₊ := by
  have hfloor := x.floor_mul_abs_value 1
  rw [Nat.cast_one, one_mul, one_mul] at hfloor
  rw [hfloor, Saturates, toNat_wholePart hx]
  split <;> omega

theorem mul_hundred_le_scaledFloor_iff (hx : x.isFinite = true) (a b : Int64) :
    Tolerance.differenceWord a b * 100 ≤ scaledFloor (Tolerance.absWord a) x ↔
      100 * (a.toInt - b.toInt).natAbs ≤ ⌊(a.toInt.natAbs : ℚ) * |x.value|⌋₊ := by
  have hlt := natAbs_sub_lt a b
  have hsaturates := saturates_scaledFloor hx (Tolerance.absWord a)
  rw [toNat_absWord] at hsaturates
  rw [BitVec.le_def, Tolerance.toNat_differenceWord_mul_hundred, hsaturates.le_iff (by omega)]

theorem le_wholePart_iff_le_floor (hx : x.isFinite = true) (a b : Int64) :
    Tolerance.differenceWord a b ≤ wholePart x ↔ (a.toInt - b.toInt).natAbs ≤ ⌊|x.value|⌋₊ := by
  have hlt := natAbs_sub_lt a b
  rw [BitVec.le_def, toNat_differenceWord, (saturates_wholePart hx).le_iff (by omega)]

end Saturation

/-- **The product of a word and a double** needs no more than 117 bits before it is shifted, by less than 128
where it is shifted at all, and neither it nor the comparison of integers ever overflows. The result is the
whole part of the exact product as far as 127 bits suffice, and needs more where this does; an infinite
double gives the greatest word. The differences that it is compared with fit in 64 bits, and a hundred times
as much in 71, so that the words compare as the whole parts they stand for. -/
theorem scaledFloor_saturates (magnitude : UInt64) (x : Binary64) (mode : ToleranceMode) (a b : Int64) :
    let difference := (a.toInt - b.toInt).natAbs
    (magnitude.toNat * x.mantissa < 2 ^ 117 ∧
      scaledFloor? magnitude x = some (scaledFloor magnitude x)) ∧
    (x.isInfinite = true → scaledFloor magnitude x = .allOnes 128) ∧
    (x.isFinite = true →
      ((-1075 ≤ x.exponent ∧ x.exponent ≤ 971) ∧ |x.value| = x.mantissa * 2 ^ x.exponent) ∧
      Saturates (scaledFloor magnitude x) ⌊(magnitude.toNat : ℚ) * |x.value|⌋₊) ∧
    (difference < 2 ^ 64 ∧ (Tolerance.differenceWord a b).toNat = difference) ∧
    (100 * difference < 2 ^ 71 ∧ (Tolerance.differenceWord a b * 100).toNat = 100 * difference) ∧
    Tolerance.admitsIntegers? ⟨x, mode⟩ a b = some (Tolerance.admitsIntegers ⟨x, mode⟩ a b) ∧
    (x.isFinite = true →
      (Tolerance.differenceWord a b * 100 ≤ scaledFloor (Tolerance.absWord a) x ↔
        100 * difference ≤ ⌊(a.toInt.natAbs : ℚ) * |x.value|⌋₊) ∧
      (Tolerance.differenceWord a b ≤ wholePart x ↔ difference ≤ ⌊|x.value|⌋₊)) := by
  intro difference
  have hlt : difference < 2 ^ 64 := natAbs_sub_lt a b
  refine ⟨⟨product_mantissa_lt magnitude x, scaledFloor?_eq magnitude x⟩, fun hinfinite => ?_,
    fun hfinite => ?_, ⟨hlt, toNat_differenceWord a b⟩,
    ⟨by omega, Tolerance.toNat_differenceWord_mul_hundred a b⟩, admitsIntegers?_eq _ a b,
    fun hfinite => ?_⟩
  · rw [scaledFloor, if_pos hinfinite]
  · exact ⟨⟨x.exponent_bounds hfinite, x.abs_value_eq_mantissa⟩, saturates_scaledFloor hfinite magnitude⟩
  · exact ⟨mul_hundred_le_scaledFloor_iff hfinite a b, le_wholePart_iff_le_floor hfinite a b⟩

/-- The greatest word times `2 ^ 63`, which is shifted as far as it can be, and the two integers that are
farthest apart. -/
theorem scaledFloor_saturates_last_shift :
    let greatest : UInt64 := 0xffffffffffffffff
    let x : Binary64 := ⟨0x43e0000000000000⟩
    let a := Int64.minValue
    let b := Int64.maxValue
    x.isFinite = true ∧
    scaledFloor? greatest x = some (.ofNat 128 ((2 ^ 64 - 1) * 2 ^ 63)) ∧
    Saturates (scaledFloor greatest x) ⌊(greatest.toNat : ℚ) * |x.value|⌋₊ ∧
    (Tolerance.differenceWord a b * 100 ≤ scaledFloor (Tolerance.absWord a) x ↔
      100 * (a.toInt - b.toInt).natAbs ≤ ⌊(a.toInt.natAbs : ℚ) * |x.value|⌋₊) := by
  intro greatest x a b
  have hfinite : x.isFinite = true := by decide +kernel
  obtain ⟨⟨-, hword⟩, -, hexact, -, -, -, hcompare⟩ := scaledFloor_saturates greatest x .percent a b
  exact ⟨hfinite, hword.trans (by decide +kernel), (hexact hfinite).2, (hcompare hfinite).1⟩

end Expectation
