import Expectation.Proofs.Assertion.Verdict
import Expectation.Proofs.Value.Equality
import Expectation.Proofs.Value.Order

/-!
# Assertions of equality

Whether an assertion passes is whether its value satisfies the constraint of its goal. So assertions of
equality pass for values that match, which are the same instance or structurally identical first of all,
and which integers are up to the limits of 64 bits only if they are equal.

* `areEqual_eq_ok_iff`, `areNotEqual_eq_ok_iff`: the assertions of equality;
* **`identity_implies_equality`**: one instance, structural identity, matching, matching without case;
* `Indistinct`: different integers beyond 64 bits may stand for the same double;
* **`areEqual_integers`**: two integers in assertions of equality.
-/

namespace Expectation

variable {σ : Type} {host : Host σ} {counter : Counter} {s : σ}

section Equality

variable {e a : Value}

theorem areEqual_eq_ok_iff :
    ((Classic.areEqual e (.value a)).run host counter s).result = .ok () ↔
      e.matching none false a = true := by
  rw [← satisfied_equal host s]
  exact Check.run_eq_ok_iff rfl

theorem areNotEqual_eq_ok_iff :
    ((Classic.areNotEqual e (.value a)).run host counter s).result = .ok () ↔
      e.matching none false a = false := by
  have hnot : (((Constraint.equal e none false).not.satisfied host a) s).result =
      !e.matching none false a := by
    rw [Constraint.satisfied_not, ← satisfied_equal host s]
    rfl
  rw [← Bool.not_eq_true', ← hnot]
  exact Check.run_eq_ok_iff rfl

end Equality

/-- **Identity implies equality.** Values of one instance are structurally identical, structurally
identical values match, and values that match do so when case is ignored. Every value is asserted to
be equal to itself. -/
theorem identity_implies_equality (host : Host σ) (counter : Counter) (s : σ) :
    (∀ e a : Value, (e.sameInstance a = true → (e == a) = true) ∧
      ((e == a) = true → e.matching none false a = true) ∧
      (e.matching none false a = true → e.matching none true a = true)) ∧
    ∀ v : Value, ((Classic.areEqual v (.value v)).run host counter s).result = .ok () :=
  ⟨fun _ _ => ⟨Value.same_of_sameInstance, Value.matching_of_same, Value.matching_ignoring_case⟩,
    fun v => areEqual_eq_ok_iff.mpr (Value.matching_self false v)⟩

/-! ## Integers -/

section Integers

variable {m n : ℤ}

/-- The integer has 64 bits, so that it is a value as it stands. -/
def IsInt64 (n : ℤ) : Prop := Int64.minValue.toInt ≤ n ∧ n ≤ Int64.maxValue.toInt

/-- Integers that stand for matching values: equal ones, and others of which one or both have more than
64 bits when they are rounded to the same double. -/
def Indistinct (m n : ℤ) : Prop :=
  m = n ∨ ¬ (IsInt64 m ∧ IsInt64 n) ∧ Binary64.ofInt m = Binary64.ofInt n

theorem toInt_ofInt_of_isInt64 (h : IsInt64 n) : (Int64.ofInt n).toInt = n := by
  rw [IsInt64, Int64.toInt_minValue, Int64.toInt_maxValue] at h
  exact Int64.toInt_ofInt_of_le h.1 (by omega)

theorem ofInteger_of_isInt64 (h : IsInt64 n) : Value.ofInteger n = .int (Int64.ofInt n) := if_pos h

theorem ofInteger_of_not_isInt64 (h : ¬ IsInt64 n) : Value.ofInteger n = .float (.ofInt n) := if_neg h

theorem matching_ofInteger_of_not (h : ¬ (IsInt64 m ∧ IsInt64 n)) :
    (Value.ofInteger m).matching none false (.ofInteger n) = true ↔
      Binary64.ofInt m = Binary64.ofInt n := by
  rw [← numbersMatch_ofInt_iff]
  by_cases hm : IsInt64 m
  · have hn : ¬ IsInt64 n := fun hn => h ⟨hm, hn⟩
    rw [ofInteger_of_isInt64 hm, ofInteger_of_not_isInt64 hn, Value.matching, toInt_ofInt_of_isInt64 hm]
  · rw [ofInteger_of_not_isInt64 hm]
    by_cases hn : IsInt64 n
    · rw [ofInteger_of_isInt64 hn, Value.matching, toInt_ofInt_of_isInt64 hn]
    · rw [ofInteger_of_not_isInt64 hn, Value.matching]

theorem matching_ofInteger_iff :
    (Value.ofInteger m).matching none false (.ofInteger n) = true ↔ Indistinct m n := by
  by_cases h : IsInt64 m ∧ IsInt64 n
  · rw [Indistinct, or_iff_left fun hround => hround.1 h, ofInteger_of_isInt64 h.1,
      ofInteger_of_isInt64 h.2, Value.matching, integersMatch, beq_iff_eq, ← Int64.toInt_inj,
      toInt_ofInt_of_isInt64 h.1, toInt_ofInt_of_isInt64 h.2]
  · rw [matching_ofInteger_of_not h, Indistinct]
    exact ⟨fun hround => .inr ⟨h, hround⟩, fun hind => hind.elim (congrArg _) And.right⟩

theorem le_natAbs_of_ofInt_eq (hm : ¬ IsInt64 m) (h : Binary64.ofInt m = Binary64.ofInt n) :
    2 ^ 63 - 512 ≤ n.natAbs := by
  have hkey : (Binary64.ofInt m).key = (Binary64.ofInt n).key := congrArg _ h
  rw [IsInt64, Int64.toInt_minValue, Int64.toInt_maxValue] at hm
  -- The least integer that is rounded to `2 ^ 63` lies halfway between it and the double before it.
  by_contra hsmall
  by_cases hsign : 0 ≤ m
  · have hlower : (Binary64.ofInt (2 ^ 63)).key ≤ (Binary64.ofInt m).key :=
      Binary64.key_ofInt_le_key_ofInt (by omega)
    have hupper : (Binary64.ofInt n).key ≤ (Binary64.ofInt (2 ^ 63 - 513)).key :=
      Binary64.key_ofInt_le_key_ofInt (by omega)
    have hgap : (Binary64.ofInt (2 ^ 63 - 513)).key < (Binary64.ofInt (2 ^ 63)).key := by
      decide +kernel
    omega
  · have hupper : (Binary64.ofInt m).key ≤ (Binary64.ofInt (-2 ^ 63)).key :=
      Binary64.key_ofInt_le_key_ofInt (by omega)
    have hlower : (Binary64.ofInt (-2 ^ 63 + 513)).key ≤ (Binary64.ofInt n).key :=
      Binary64.key_ofInt_le_key_ofInt (by omega)
    have hgap : (Binary64.ofInt (-2 ^ 63)).key < (Binary64.ofInt (-2 ^ 63 + 513)).key := by
      decide +kernel
    omega

theorem Indistinct.le_natAbs (h : Indistinct m n) (hne : m ≠ n) :
    2 ^ 63 - 512 ≤ m.natAbs ∧ 2 ^ 63 - 512 ≤ n.natAbs := by
  obtain heq | ⟨hwide, hround⟩ := h
  · exact absurd heq hne
  · have hself : ∀ {k : ℤ}, ¬ IsInt64 k → 2 ^ 63 - 512 ≤ k.natAbs := fun hk =>
      le_natAbs_of_ofInt_eq hk rfl
    by_cases hm : IsInt64 m
    · have hn : ¬ IsInt64 n := fun hn => hwide ⟨hm, hn⟩
      exact ⟨le_natAbs_of_ofInt_eq hn hround.symm, hself hn⟩
    · exact ⟨hself hm, le_natAbs_of_ofInt_eq hm hround⟩

/-- **Integers in assertions of equality.** Two integers, which may have any number of bits, are
asserted to be equal just if they are, or if one of them has more than 64 bits and both are rounded to
the same double; they are asserted to be different in all other cases. An integer of less than
`2 ^ 63 - 512` in absolute value is told apart from every other one. -/
theorem areEqual_integers (host : Host σ) (counter : Counter) (s : σ) (m n : ℤ) :
    (((Classic.areEqual (.ofInteger m) (.value (.ofInteger n))).run host counter s).result = .ok () ↔
      Indistinct m n) ∧
    (((Classic.areNotEqual (.ofInteger m) (.value (.ofInteger n))).run host counter s).result = .ok () ↔
      ¬ Indistinct m n) ∧
    (Indistinct m n → m ≠ n → 2 ^ 63 - 512 ≤ m.natAbs ∧ 2 ^ 63 - 512 ≤ n.natAbs) := by
  refine ⟨areEqual_eq_ok_iff.trans matching_ofInteger_iff, ?_, Indistinct.le_natAbs⟩
  rw [areNotEqual_eq_ok_iff, ← matching_ofInteger_iff, Bool.not_eq_true]

/-- The two greatest words of 64 bits are different, and are asserted to be equal. -/
theorem areEqual_greatest_words :
    let m : ℤ := 18446744073709551615
    let n : ℤ := 18446744073709551614
    m ≠ n ∧
      ((Classic.areEqual (.ofInteger m) (.value (.ofInteger n))).run .silent ⟨0⟩ ()).result = .ok () ∧
      ((Classic.areNotEqual (.ofInteger m) (.value (.ofInteger n))).run .silent ⟨0⟩ ()).result ≠
        .ok () := by
  intro m n
  have hmatch : (Value.ofInteger m).matching none false (.ofInteger n) = true := by decide +kernel
  refine ⟨by decide, areEqual_eq_ok_iff.mpr hmatch, fun hdiffer => ?_⟩
  rw [areNotEqual_eq_ok_iff, hmatch] at hdiffer
  exact Bool.noConfusion hdiffer

end Integers

end Expectation
