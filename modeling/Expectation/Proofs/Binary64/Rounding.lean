import Expectation.Proofs.Binary64.Value

/-!
# Rounding of integers

The number nearest to an integer grows with the integer, and is the integer itself up to `2 ^ 53`. So
integers that are rounded to one number either are the same or lie beyond this bound.

* `roundDiv_le_roundDiv`, `roundDiv_of_dvd`: rounded quotients;
* `steps`: the magnitude of the number nearest to some units, which grows with them;
* `key_ofInt_le_key_ofInt`, `units_ofInt`: the numbers nearest to integers;
* `eq_of_key_eq`, `ofInt_eq_iff_key_eq`: equality of such numbers is that of their keys;
* **`two_pow_le_natAbs_of_ofInt_eq`**: integers that are rounded to one number.
-/

namespace Expectation.Binary64

/-! ## Quotients -/

section Quotients

variable {n m d : ℕ}

theorem div_le_roundDiv (n d : ℕ) : n / d ≤ roundDiv n d := by
  unfold roundDiv
  split <;> omega

theorem roundDiv_le_div_add_one (n d : ℕ) : roundDiv n d ≤ n / d + 1 := by
  unfold roundDiv
  split <;> omega

theorem roundDiv_of_dvd (h : d ∣ n) : roundDiv n d = n / d := by
  have hmod : n % d = 0 := Nat.mod_eq_zero_of_dvd h
  unfold roundDiv
  rw [hmod, if_pos]
  by_cases hd : d = 0
  · subst hd
    simp
  · omega

theorem roundDiv_le_roundDiv (h : n ≤ m) : roundDiv n d ≤ roundDiv m d := by
  have hdiv : n / d ≤ m / d := Nat.div_le_div_right h
  by_cases heq : n / d = m / d
  · -- the quotients agree, so that the remainders decide
    have hmod : n % d ≤ m % d := by
      have hn := Nat.div_add_mod n d
      have hm := Nat.div_add_mod m d
      rw [heq] at hn
      omega
    unfold roundDiv
    rw [heq]
    split <;> split <;> omega
  · have hn := roundDiv_le_div_add_one n d
    have hm := div_le_roundDiv m d
    omega

end Quotients

/-! ## Units to magnitudes -/

/-- The magnitude of the number nearest to `n` units, were there no greatest number. -/
def steps (n : ℕ) : ℕ := (n.log2 - 52) * 2 ^ 52 + roundDiv n (2 ^ (n.log2 - 52))

section Steps

variable {n m : ℕ}

theorem div_two_pow_lt (n : ℕ) : n / 2 ^ (n.log2 - 52) < 2 ^ 53 := by
  have hlt : n < 2 ^ (n.log2 + 1) := Nat.lt_log2_self
  rw [Nat.div_lt_iff_lt_mul (Nat.two_pow_pos _), ← pow_add]
  exact lt_of_lt_of_le hlt (Nat.pow_le_pow_right (by decide) (by omega))

theorem le_div_two_pow (h : 52 < n.log2) : 2 ^ 52 ≤ n / 2 ^ (n.log2 - 52) := by
  have hne : n ≠ 0 := by
    rintro rfl
    simp at h
  have hexponent : 52 + (n.log2 - 52) = n.log2 := by omega
  rw [Nat.le_div_iff_mul_le (Nat.two_pow_pos _), ← pow_add, hexponent]
  exact Nat.log2_self_le hne

theorem log2_le_log2 (h : n ≤ m) : n.log2 ≤ m.log2 := by
  by_cases hn : n = 0
  · subst hn
    simp
  · exact (Nat.le_log2 (by omega)).mpr (le_trans (Nat.log2_self_le hn) h)

theorem steps_le_steps (h : n ≤ m) : steps n ≤ steps m := by
  have hlog := log2_le_log2 h
  unfold steps
  by_cases heq : n.log2 - 52 = m.log2 - 52
  · rw [heq]
    have hround := roundDiv_le_roundDiv (d := 2 ^ (m.log2 - 52)) h
    omega
  · -- a carry out of the fraction of `n` comes no further than the least fraction of `m`
    have hn := div_two_pow_lt n
    have hround := roundDiv_le_div_add_one n (2 ^ (n.log2 - 52))
    have hm : 2 ^ 52 ≤ m / 2 ^ (m.log2 - 52) := le_div_two_pow (by omega)
    have hround' := div_le_roundDiv m (2 ^ (m.log2 - 52))
    omega

theorem steps_pos (h : 0 < n) : 0 < steps n := by
  have hpow : 2 ^ (n.log2 - 52) ≤ n :=
    le_trans (Nat.pow_le_pow_right (by decide) (by omega)) (Nat.log2_self_le (by omega))
  have hdiv : 0 < n / 2 ^ (n.log2 - 52) := Nat.div_pos hpow (Nat.two_pow_pos _)
  have hround := div_le_roundDiv n (2 ^ (n.log2 - 52))
  unfold steps
  omega

end Steps

/-! ## Words of a sign and a magnitude -/

section Make

variable {s : Bool} {m : ℕ}

theorem toNat_bits_make (h : m < 2 ^ 63) :
    (make s m).bits.toNat = if s then 2 ^ 63 + m else m := by
  have hpower : 1 <<< 63 = 2 ^ 63 := Nat.one_shiftLeft 63
  rw [make, hpower, UInt64.toNat_ofNat', Nat.mod_eq_of_lt]
  split <;> omega

theorem magnitude_make (h : m < 2 ^ 63) : (make s m).magnitude = m := by
  have hpower : 1 <<< 63 = 2 ^ 63 := Nat.one_shiftLeft 63
  rw [magnitude, toNat_bits_make h, hpower]
  split <;> omega

theorem negative_make (h : m < 2 ^ 63) : (make s m).negative = s := by
  have hpower : 1 <<< 63 = 2 ^ 63 := Nat.one_shiftLeft 63
  rw [negative, toNat_bits_make h, hpower]
  cases s <;> simp
  omega

theorem key_make (h : m < 2 ^ 63) : (make s m).key = if s then -(m : ℤ) else m := by
  rw [key, negative_make h, magnitude_make h]

theorem infinityMagnitude_eq : infinityMagnitude = 2047 * 2 ^ 52 := Nat.shiftLeft_eq 2047 52

theorem min_infinityMagnitude_lt (n : ℕ) : min n infinityMagnitude < 2 ^ 63 := by
  rw [infinityMagnitude_eq]
  omega

theorem absUnits_make_steps {n : ℕ} (hdvd : 2 ^ (n.log2 - 52) ∣ n) (h : steps n < 2 ^ 63) :
    (make s (steps n)).absUnits = n := by
  have hfraction : 1 <<< 52 = 2 ^ 52 := Nat.one_shiftLeft 52
  have hlt := div_two_pow_lt n
  have hsteps : steps n = (n.log2 - 52) * 2 ^ 52 + n / 2 ^ (n.log2 - 52) := by
    rw [steps, roundDiv_of_dvd hdvd]
  have hfields : (make s (steps n)).significand = n / 2 ^ (n.log2 - 52) ∧
      (make s (steps n)).exponentField - 1 = n.log2 - 52 := by
    rw [significand, exponentField, fraction, magnitude_make h, hfraction, hsteps]
    by_cases hlog : 52 < n.log2
    · have hle := le_div_two_pow hlog
      split <;> omega
    · have hexponent : n.log2 - 52 = 0 := by omega
      simp only [hexponent, pow_zero, Nat.div_one] at hlt ⊢
      split <;> omega
  rw [absUnits, hfields.1, hfields.2, Nat.shiftLeft_eq, Nat.div_mul_cancel hdvd]

end Make

/-! ## Numbers from integers -/

/-- The magnitude of the number nearest to a natural number. -/
def reach (n : ℕ) : ℕ := min (steps (n * unitsPerOne)) infinityMagnitude

theorem reach_le_reach {n m : ℕ} (h : n ≤ m) : reach n ≤ reach m :=
  min_le_min_right _ (steps_le_steps (Nat.mul_le_mul_right _ h))

theorem reach_lt (n : ℕ) : reach n < 2 ^ 63 := min_infinityMagnitude_lt _

theorem reach_pos {n : ℕ} (h : 0 < n) : 0 < reach n :=
  lt_min (steps_pos (Nat.mul_pos h unitsPerOne_pos)) (by decide)

theorem ofInt_eq_make (n : ℤ) : ofInt n = make (decide (n < 0)) (reach n.natAbs) := by
  simp only [ofInt, ofUnits, reach, steps, Nat.div_one, Nat.shiftLeft_eq, one_mul]

@[simp] theorem isNaN_ofInt (n : ℤ) : (ofInt n).isNaN = false := by
  have hle : reach n.natAbs ≤ infinityMagnitude := min_le_right _ _
  rw [isNaN, ofInt_eq_make, magnitude_make (reach_lt _)]
  simpa using hle

theorem key_ofInt (n : ℤ) :
    (ofInt n).key = if n < 0 then -(reach n.natAbs : ℤ) else reach n.natAbs := by
  rw [ofInt_eq_make, key_make (reach_lt _)]
  simp

/-- **Rounding keeps the order** of integers. -/
theorem key_ofInt_le_key_ofInt {m n : ℤ} (h : m ≤ n) : (ofInt m).key ≤ (ofInt n).key := by
  rw [key_ofInt, key_ofInt]
  split
  · split
    · have hreach : reach n.natAbs ≤ reach m.natAbs := reach_le_reach (by omega)
      omega
    · omega
  · have hreach : reach m.natAbs ≤ reach n.natAbs := reach_le_reach (by omega)
    rw [if_neg (by omega)]
    omega

theorem log2_two_pow_mul_unitsPerOne (k : ℕ) : (2 ^ k * unitsPerOne).log2 = k + 1074 := by
  rw [two_pow_mul_unitsPerOne, Nat.log2_two_pow]

theorem two_pow_dvd_unitsPerOne {k : ℕ} (h : k ≤ 0 + 1074) : 2 ^ k ∣ unitsPerOne := by
  have hpow : 2 ^ k ∣ 2 ^ (0 + 1074) := pow_dvd_pow 2 h
  rwa [← two_pow_mul_unitsPerOne, pow_zero, one_mul] at hpow

theorem two_pow_dvd_mul_unitsPerOne {n : ℕ} (h : n ≤ 2 ^ 53) :
    2 ^ ((n * unitsPerOne).log2 - 52) ∣ n * unitsPerOne := by
  by_cases hzero : n = 0
  · simp [hzero]
  by_cases heq : n = 2 ^ 53
  · rw [heq, log2_two_pow_mul_unitsPerOne, two_pow_mul_unitsPerOne]
    exact pow_dvd_pow _ (by omega)
  · have hlt : n * unitsPerOne < 2 ^ 53 * unitsPerOne :=
      Nat.mul_lt_mul_of_pos_right (by omega) unitsPerOne_pos
    rw [two_pow_mul_unitsPerOne] at hlt
    have hlog := (Nat.log2_lt (Nat.mul_ne_zero hzero unitsPerOne_pos.ne')).mpr hlt
    exact dvd_mul_of_dvd_right (two_pow_dvd_unitsPerOne (by omega)) n

theorem steps_mul_unitsPerOne_lt {n : ℕ} (h : n ≤ 2 ^ 53) :
    steps (n * unitsPerOne) < infinityMagnitude := by
  have hlog := log2_le_log2 (Nat.mul_le_mul_right unitsPerOne h)
  rw [log2_two_pow_mul_unitsPerOne] at hlog
  have hround := roundDiv_le_div_add_one (n * unitsPerOne) (2 ^ ((n * unitsPerOne).log2 - 52))
  have hlt := div_two_pow_lt (n * unitsPerOne)
  rw [steps, infinityMagnitude_eq]
  omega

/-- **Integers of 53 bits** are numbers. -/
theorem units_ofInt {n : ℤ} (h : n.natAbs ≤ 2 ^ 53) : (ofInt n).units = n * unitsPerOne := by
  have hsteps := steps_mul_unitsPerOne_lt h
  have hreach : reach n.natAbs = steps (n.natAbs * unitsPerOne) := min_eq_left hsteps.le
  have hlt : steps (n.natAbs * unitsPerOne) < 2 ^ 63 := hreach ▸ reach_lt _
  rw [ofInt_eq_make, hreach, units, negative_make hlt,
    absUnits_make_steps (two_pow_dvd_mul_unitsPerOne h) hlt]
  by_cases hsign : n < 0
  · rw [if_pos (by simpa using hsign), Nat.cast_mul, ← neg_mul]
    congr 1
    omega
  · rw [if_neg (by simpa using hsign), Nat.cast_mul]
    congr 1
    omega

/-! ## Integers rounded to one number -/

section Collisions

variable {x y : Binary64}

theorem magnitude_eq_natAbs_key (x : Binary64) : x.magnitude = x.key.natAbs := by
  rw [key]
  split <;> omega

theorem eq_of_key_eq (h : x.key = y.key) (hne : x.key ≠ 0) : x = y := by
  have hmagnitude : x.magnitude = y.magnitude := by
    rw [magnitude_eq_natAbs_key, magnitude_eq_natAbs_key, h]
  have hsign : x.negative = y.negative := by
    rw [key, key] at h
    rw [key] at hne
    cases hx : x.negative <;> cases hy : y.negative <;> simp_all
  rw [x.eq_make, y.eq_make, hmagnitude, hsign]

theorem units_eq_of_key_eq (h : x.key = y.key) : x.units = y.units := by
  by_cases hne : x.key = 0
  · have hzero : ∀ z : Binary64, z.key = 0 → z.units = 0 := by
      intro z hz
      have hmagnitude : z.magnitude = 0 := by rw [magnitude_eq_natAbs_key, hz, Int.natAbs_zero]
      have habs : z.absUnits = 0 := by
        rw [absUnits_eq, z.significand_eq_zero_iff.mpr hmagnitude, Nat.zero_mul]
      rw [units, habs]
      simp
    rw [hzero x hne, hzero y (h ▸ hne)]
  · rw [eq_of_key_eq h hne]

theorem key_ofInt_ne_zero {n : ℤ} (h : n ≠ 0) : (ofInt n).key ≠ 0 := by
  have hpos : 0 < reach n.natAbs := reach_pos (Int.natAbs_pos.mpr h)
  rw [key_ofInt]
  split <;> omega

theorem eq_of_key_ofInt_eq {m n : ℤ} (hm : m.natAbs ≤ 2 ^ 53) (hn : n.natAbs ≤ 2 ^ 53)
    (h : (ofInt m).key = (ofInt n).key) : m = n := by
  have hunits := units_eq_of_key_eq h
  rw [units_ofInt hm, units_ofInt hn] at hunits
  exact mul_right_cancel₀ (Nat.cast_ne_zero.mpr unitsPerOne_pos.ne') hunits

theorem two_pow_le_natAbs_of_lt {m n : ℤ} (hlt : m < n) (h : (ofInt m).key = (ofInt n).key) :
    2 ^ 53 ≤ m.natAbs ∧ 2 ^ 53 ≤ n.natAbs := by
  -- What lies between the two is rounded to the same number, and so are their neighbours.
  have hbetween : ∀ k, m ≤ k → k ≤ n → (ofInt m).key = (ofInt k).key := fun k hm hn =>
    le_antisymm (key_ofInt_le_key_ofInt hm) (h ▸ key_ofInt_le_key_ofInt hn)
  constructor
  · by_contra hsmall
    have heq := eq_of_key_ofInt_eq (by omega) (by omega) (hbetween (m + 1) (by omega) (by omega))
    omega
  · by_contra hsmall
    have hprevious := hbetween (n - 1) (by omega) (by omega)
    have heq := eq_of_key_ofInt_eq (by omega) (by omega) (hprevious.symm.trans h)
    omega

/-- **Different integers that are rounded to one number** are no integers of 53 bits, except for the
bounds of these. -/
theorem two_pow_le_natAbs_of_ofInt_eq {m n : ℤ} (hne : m ≠ n) (h : ofInt m = ofInt n) :
    2 ^ 53 ≤ m.natAbs ∧ 2 ^ 53 ≤ n.natAbs := by
  rcases lt_or_gt_of_ne hne with hlt | hgt
  · exact two_pow_le_natAbs_of_lt hlt (congrArg key h)
  · exact (two_pow_le_natAbs_of_lt hgt (congrArg key h.symm)).symm

theorem ofInt_eq_iff_key_eq {m n : ℤ} : ofInt m = ofInt n ↔ (ofInt m).key = (ofInt n).key := by
  refine ⟨congrArg key, fun h => ?_⟩
  by_cases hzero : (ofInt m).key = 0
  · have hm : m = 0 := by_contra fun hne => key_ofInt_ne_zero hne hzero
    have hn : n = 0 := by_contra fun hne => key_ofInt_ne_zero hne (h ▸ hzero)
    rw [hm, hn]
  · exact eq_of_key_eq h hzero

end Collisions

end Expectation.Binary64
