import Expectation.Proofs.Value.Equality

/-!
# Matching under a fallback tolerance

A fallback tolerance is for comparisons in which a double takes part. Where none does it makes no
difference, and where one does it lets more values match, the more the greater it is.

* `Value.doubles`: the doubles in a value, at any depth;
* **`Value.matching_fallback`**: values without doubles;
* `Loosens`: numbers that match under one tolerance match under another, and so do values;
* `loosens_fallback`, `loosens_fallback_fallback`: a fallback loosens, and a greater one more so.
-/

namespace Expectation

/-! ## Values without doubles -/

namespace Value

mutual

/-- The doubles in a value, at any depth. -/
def doubles : Value → List Binary64
  | float x => [x]
  | list items => doublesOf items
  | _ => []

/-- The doubles in the items of a list. -/
def doublesOf : List Value → List Binary64
  | [] => []
  | v :: vs => doubles v ++ doublesOf vs

end

section Doubles

variable {e a : Value} {vs ws : List Value} {i : Bool} {t u : Option Tolerance}

theorem doubles_list_eq_nil_iff : (list vs).doubles = [] ↔ ∀ v ∈ vs, v.doubles = [] := by
  show doublesOf vs = [] ↔ _
  induction vs with
  | nil => exact iff_of_true rfl nofun
  | cons v vs ih => rw [doublesOf, List.append_eq_nil_iff, ih, List.forall_mem_cons]

theorem matchingItems_congr
    (h : ∀ v ∈ vs, ∀ w ∈ ws, v.matching t i w = v.matching u i w) :
    matchingItems t i vs ws = matchingItems u i vs ws := by
  induction vs generalizing ws with
  | nil => cases ws <;> rfl
  | cons v vs ih =>
    cases ws with
    | nil => rfl
    | cons w ws =>
      have hrest : matchingItems t i vs ws = matchingItems u i vs ws := ih fun v hv w hw =>
        h v (List.mem_cons_of_mem _ hv) w (List.mem_cons_of_mem _ hw)
      rw [matchingItems, matchingItems, hrest, h v List.mem_cons_self w List.mem_cons_self]

/-- **Values without doubles** match under a fallback tolerance just if they match under none. -/
theorem matching_fallback (amount : Binary64) (i : Bool) (he : e.doubles = []) (ha : a.doubles = []) :
    e.matching (some ⟨amount, .fallback⟩) i a = e.matching none i a := by
  induction e using items_induction generalizing a with
  | list items ih =>
    cases a with
    | list others =>
      rw [doubles_list_eq_nil_iff] at he ha
      exact matchingItems_congr fun v hv w hw => ih v hv (he v hv) (ha w hw)
    | _ => rfl
  | other e hlist =>
    cases e with
    | list items => cases hlist
    | float x => cases he
    | int m =>
      cases a with
      | int n => rfl
      | float y => cases ha
      | _ => rfl
    | _ => cases a <;> rfl

end Doubles

end Value

/-! ## Looser tolerances -/

/-- Numbers that match under the first tolerance match under the second. -/
structure Loosens (t u : Option Tolerance) : Prop where
  integers : ∀ m n, integersMatch m n t = true → integersMatch m n u = true
  numbers : ∀ x y, numbersMatch x y t = true → numbersMatch x y u = true

/-- **Values that match** do so under a looser tolerance. -/
theorem Loosens.matching {t u : Option Tolerance} (h : Loosens t u) {e a : Value} {i : Bool}
    (hmatch : e.matching t i a = true) : e.matching u i a = true := by
  induction e using Value.items_induction generalizing a with
  | list items ih =>
    cases a with
    | list others =>
      have hitems := Value.forall₂_of_items (fun v hv _ => ih v hv) (Value.matchingItems_iff.mp hmatch)
      exact Value.matchingItems_iff.mpr hitems
    | _ => cases hmatch
  | other e hlist =>
    cases e with
    | list items => cases hlist
    | int m =>
      cases a with
      | int n => exact h.integers m n hmatch
      | float y => exact h.numbers _ y hmatch
      | _ => cases hmatch
    | float x =>
      cases a with
      | int n => exact h.numbers x _ hmatch
      | float y => exact h.numbers x y hmatch
      | _ => cases hmatch
    | _ => cases a <;> exact hmatch

/-! ## Fallback tolerances -/

namespace Binary64

variable {x y z : Binary64}

theorem le_iff : x.le y = true ↔ x.isNaN = false ∧ y.isNaN = false ∧ x.key ≤ y.key := by
  rw [le]
  cases x.isNaN <;> cases y.isNaN <;> simp

theorem le_trans (hxy : x.le y = true) (hyz : y.le z = true) : x.le z = true := by
  rw [le_iff] at *
  exact ⟨hxy.1, hyz.2.1, hxy.2.2.trans hyz.2.2⟩

theorem le_of_lt_eq_false (hx : x.isNaN = false) (hy : y.isNaN = false) (h : y.lt x = false) :
    x.le y = true := by
  simpa [lt, le, hx, hy] using h

theorem abs_sub_of_eq (hx : x.isFinite = true) (h : x.eq y = true) : (x.sub y).abs = zero false := by
  obtain ⟨hxnan, hynan, hkey⟩ := eq_iff.mp h
  have hy : y.isFinite = true := by
    rw [isFinite, magnitude_eq_natAbs_key, ← hkey, ← magnitude_eq_natAbs_key]
    exact hx
  -- the difference is computed from the values, so that it is a zero of either sign
  have hunits : x.units - y.units = 0 := by rw [units_eq_of_key_eq hkey, sub_self]
  have hsub : x.sub y = zero (x.negative && !y.negative) := by
    simp [sub, hxnan, hynan, isInfinite_of_isFinite hx, isInfinite_of_isFinite hy, hunits]
  rw [hsub]
  cases x.negative && !y.negative <;> decide

end Binary64

section Fallback

variable {amount greater x y : Binary64} {t u : Option Tolerance}

theorem numbersMatch_of_isFinite (h : x.isFinite = true) :
    numbersMatch x y t = t.elim (x.eq y) fun t => t.admitsNumbers x y := by
  unfold numbersMatch
  rw [if_pos h]
  cases t <;> rfl

theorem numbersMatch_of_not_isFinite (h : x.isFinite = false) :
    numbersMatch x y t = numbersMatch x y u := by
  unfold numbersMatch
  rw [h, if_neg Bool.false_ne_true, if_neg Bool.false_ne_true]

/-- **A fallback loosens**: numbers that are equal differ by no more than an amount that is not below
zero. -/
theorem loosens_fallback (h : Binary64.le (.zero false) amount = true) :
    Loosens none (some ⟨amount, .fallback⟩) where
  integers _ _ hmatch := hmatch
  numbers x y hmatch := by
    cases hfinite : x.isFinite with
    | true =>
      rw [numbersMatch_of_isFinite hfinite] at hmatch ⊢
      show (x.sub y).abs.le amount = true
      rw [Binary64.abs_sub_of_eq hfinite hmatch]
      exact h
    | false => rwa [numbersMatch_of_not_isFinite hfinite]

/-- **A greater fallback loosens more**: what differs by no more than the one amount differs by no more
than the other. -/
theorem loosens_fallback_fallback (h : amount.le greater = true) :
    Loosens (some ⟨amount, .fallback⟩) (some ⟨greater, .fallback⟩) where
  integers _ _ hmatch := hmatch
  numbers x y hmatch := by
    cases hfinite : x.isFinite with
    | true =>
      rw [numbersMatch_of_isFinite hfinite] at hmatch ⊢
      exact Binary64.le_trans hmatch h
    | false => rwa [numbersMatch_of_not_isFinite hfinite]

end Fallback

end Expectation
