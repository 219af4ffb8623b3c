import Expectation.Proofs.Constraint.Satisfaction

/-!
# Order and equality

Ordering constraints and equality constraints look at values by two separate case distinctions. These
agree: values that have an order are equal in it just if they match, and read backwards it is the
opposite order.

* `Binary64.compare?_swap`, `Binary64.eq_of_compare?`: doubles, of which a NaN has no order;
* `Value.compare?_swap`, `Value.matching_of_compare?`: values;
* **`ordering_or_equal`**: hence of greater, equal and less one is satisfied, or no ordering at all.
-/

namespace Expectation

/-! ## Doubles -/

namespace Binary64

variable {x y : Binary64} {o : Ordering}

theorem compare?_swap (x y : Binary64) : x.compare? y = (y.compare? x).map Ordering.swap := by
  rw [compare?, compare?, Bool.or_comm]
  cases y.isNaN || x.isNaN with
  | true => rfl
  | false => exact congrArg some Std.OrientedOrd.eq_swap

theorem eq_of_compare? (h : x.compare? y = some o) : y.eq x = (o == .eq) := by
  rw [eq, compare?_swap, h]
  cases o <;> rfl

theorem isNaN_of_compare? (h : x.compare? y = some o) : x.isNaN = false ∧ y.isNaN = false := by
  rw [compare?] at h
  split at h
  · cases h
  · rename_i hnan
    simpa using hnan

end Binary64

theorem numbersMatch_of_compare? {x y : Binary64} {o : Ordering} (h : x.compare? y = some o) :
    numbersMatch y x none = (o == .eq) := by
  -- A NaN, which matches itself, has no order.
  rw [numbersMatch, Binary64.eq_of_compare? h, (Binary64.isNaN_of_compare? h).2]
  simp

/-! ## Values -/

theorem beq_of_compare {α : Type} [Ord α] [BEq α] [LawfulBEq α] [Std.LawfulEqOrd α] {x y : α}
    {o : Ordering} (h : compare x y = o) : (y == x) = (o == .eq) := by
  rw [← h, Bool.eq_iff_iff, beq_iff_eq, beq_iff_eq, Std.LawfulEqCmp.compare_eq_iff_eq]
  exact eq_comm

namespace Value

theorem compare?_swap (a b : Value) : a.compare? b = (b.compare? a).map Ordering.swap := by
  cases a with
  | int m =>
    cases b with
    | int n => exact congrArg some Std.OrientedOrd.eq_swap
    | float y => exact Binary64.compare?_swap _ _
    | _ => rfl
  | float x =>
    cases b with
    | int n => exact Binary64.compare?_swap _ _
    | float y => exact Binary64.compare?_swap _ _
    | _ => rfl
  | text s =>
    cases b with
    | text t => exact congrArg some Std.OrientedOrd.eq_swap
    | _ => rfl
  | bool p =>
    cases b with
    | bool q => exact congrArg some Std.OrientedOrd.eq_swap
    | _ => rfl
  | _ => cases b <;> rfl

/-- **Values that have an order** match just if they are equal in it. -/
theorem matching_of_compare? {a b : Value} {o : Ordering} (h : a.compare? b = some o) :
    b.matching none false a = (o == .eq) := by
  -- an integer is rounded on both sides when it meets a double, and on neither when it meets an integer
  cases a with
  | int m =>
    cases b with
    | int n =>
      calc (n == m) = (n.toInt == m.toInt) := by
            rw [Bool.eq_iff_iff, beq_iff_eq, beq_iff_eq, Int64.toInt_inj]
        _ = (o == .eq) := beq_of_compare (Option.some.inj h)
    | float y => exact numbersMatch_of_compare? h
    | _ => cases h
  | float x =>
    cases b with
    | int n => exact numbersMatch_of_compare? h
    | float y => exact numbersMatch_of_compare? h
    | _ => cases h
  | text s =>
    cases b with
    | text t => exact beq_of_compare (Option.some.inj h)
    | _ => cases h
  | bool p =>
    cases b with
    | bool q =>
      calc (q == p) = (q.toNat == p.toNat) := by cases p <;> cases q <;> rfl
        _ = (o == .eq) := beq_of_compare (Option.some.inj h)
    | _ => cases h
  | _ => cases b <;> cases h

end Value

/-! ## Constraints -/

section Constraint

open Constraint

variable {σ : Type} (host : Host σ) (s : σ)

theorem satisfied_ordering (comparison : Comparison) (expected actual : Value) :
    ((ordering comparison expected).satisfied host actual s).result =
      (actual.compare? expected).any comparison.holds :=
  isPass_check _ _ _

theorem satisfied_equal (expected actual : Value) (t : Option Tolerance) (i : Bool) :
    ((equal expected t i).satisfied host actual s).result = expected.matching t i actual :=
  isPass_check _ _ _

/-- **Order and equality agree.** Read backwards the order of two values is the opposite one. Where
there is one it is equality just if the values match, so that one of greater than, equal to and less
than is satisfied and no other, and at least is one of the first two; where there is none no ordering
constraint is satisfied, in either direction. -/
theorem ordering_or_equal (a b : Value) :
    a.compare? b = (b.compare? a).map Ordering.swap ∧
    (∀ o, a.compare? b = some o →
      (o = .eq ↔ b.matching none false a = true) ∧
      [ordering .greater b, equal b none false, ordering .less b].countP
        (fun c => (c.satisfied host a s).result) = 1 ∧
      ((ordering .greaterOrEqual b).satisfied host a s).result =
        (((ordering .greater b).satisfied host a s).result ||
          ((equal b none false).satisfied host a s).result)) ∧
    (a.compare? b = none → ∀ comparison,
      ((ordering comparison b).satisfied host a s).result = false ∧
      ((ordering comparison a).satisfied host b s).result = false) := by
  refine ⟨Value.compare?_swap a b, fun o h => ?_, fun h comparison => ?_⟩
  · have hequal := Value.matching_of_compare? h
    refine ⟨by rw [hequal, beq_iff_eq], ?_, ?_⟩
    · simp only [List.countP_cons, List.countP_nil, satisfied_ordering, satisfied_equal, h, hequal,
        Option.any_some]
      cases o <;> rfl
    · rw [satisfied_ordering, satisfied_ordering, satisfied_equal, h, hequal]
      cases o <;> rfl
  · rw [satisfied_ordering, satisfied_ordering, h, Value.compare?_swap b a, h]
    exact ⟨rfl, rfl⟩

/-- An integer and a double to which it is rounded, and a NaN, to which it has no order. -/
theorem ordering_or_equal_rounded :
    let a : Value := .int 9007199254740993
    let b : Value := .float (.ofInt 9007199254740992)
    let c : Value := .float .nan
    (a.compare? b = some .eq ∧ b.matching none false a = true ∧
      [ordering .greater b, equal b none false, ordering .less b].countP
        (fun c => (c.satisfied Host.silent a ()).result) = 1) ∧
    (a.compare? c = none ∧ ((ordering .less c).satisfied Host.silent a ()).result = false ∧
      ((ordering .less a).satisfied Host.silent c ()).result = false) := by
  intro a b c
  have hsome : a.compare? b = some .eq := by decide +kernel
  have hnone : a.compare? c = none := by decide +kernel
  obtain ⟨-, horder, -⟩ := ordering_or_equal Host.silent () a b
  obtain ⟨hequal, hone, -⟩ := horder .eq hsome
  obtain ⟨-, -, hnever⟩ := ordering_or_equal Host.silent () a c
  exact ⟨⟨hsome, hequal.mp rfl, hone⟩, hnone, hnever hnone .less⟩

end Constraint

end Expectation
