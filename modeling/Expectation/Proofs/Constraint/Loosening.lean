import Expectation.Configuration.Settings
import Expectation.Proofs.Constraint.Fallback
import Expectation.Proofs.Constraint.Predicate
import Expectation.Proofs.Value.Order

/-!
# Looser trees

Of the nodes that combine the predicates of nodes below them, all but negations and the quantifier that asks
for no item preserve implications, and so a tolerance that lets more values match lets the whole tree accept
more.

* `Constraint.Positive`: trees without bare equalities where implications turn round;
* `Holds.of_loosens`: a looser tolerance;
* **`satisfied_withFallback_mono`**: no default tolerance, one, and a greater one.
-/

namespace Expectation

namespace Constraint

/-! ## Looser tolerances -/

/-- There is no bare equality below a negation or a quantifier that asks for no item. -/
def Positive : Constraint → Prop
  | not c | items .none c => c.bare = []
  | items _ c | propertyIs _ c | attributeIs _ c | throwsMatching c => Positive c
  | and a b | or a b => Positive a ∧ Positive b
  | _ => True

section Default

variable {host : Host Unit} {c : Constraint} {t u : Option Tolerance} {v : Value}

/-- **A looser tolerance** lets a positive tree accept more. -/
theorem Holds.of_loosens (hloosens : Loosens t u) (hpositive : c.Positive)
    (h : (c.withDefault t).Holds host v) : (c.withDefault u).Holds host v := by
  induction c generalizing v with
  | equal e own i =>
    cases own with
    | some own => exact h
    | none =>
      rw [withDefault, Holds, satisfied_equal] at h ⊢
      exact hloosens.matching h
  | not c ih =>
    rw [withDefault, withDefault_of_bare_eq_nil hpositive] at h ⊢
    exact h
  | items q c ih =>
    cases q with
    | all =>
      obtain ⟨members, rfl, hall⟩ := holds_all.mp h
      exact holds_all.mpr ⟨members, rfl, fun m hm => ih hpositive (hall m hm)⟩
    | some =>
      obtain ⟨members, rfl, m, hm, hsome⟩ := holds_some.mp h
      exact holds_some.mpr ⟨members, rfl, m, hm, ih hpositive hsome⟩
    | none =>
      rw [withDefault, withDefault_of_bare_eq_nil hpositive] at h ⊢
      exact h
  | and a b iha ihb =>
    exact holds_and.mpr ((holds_and.mp h).imp (iha hpositive.1) (ihb hpositive.2))
  | or a b iha ihb =>
    exact holds_or.mpr ((holds_or.mp h).imp (iha hpositive.1) (ihb hpositive.2))
  | propertyIs name c ih => exact h.within_mono (.propertyIs name _) fun _ => ih hpositive
  | attributeIs name c ih => exact h.within_mono (.attributeIs name _) fun _ => ih hpositive
  | throwsMatching c ih => exact h.within_mono (.throwsMatching _) fun _ => ih hpositive
  | _ => exact h

end Default

end Constraint

/-! ## Default tolerances -/

section Steady

variable {σ : Type} {host : Host σ} {s s' s'' : σ} {c : Constraint} {v : Value} {d e : Binary64}

theorem Configuration.le_of_validTolerance (h : Configuration.validTolerance d = true) :
    Binary64.le (.zero false) d = true := by
  obtain ⟨hfinite, hlt⟩ := Bool.and_eq_true_iff.mp h
  refine Binary64.le_of_lt_eq_false (by decide) (Binary64.isNaN_of_isFinite hfinite) ?_
  simpa using hlt

/-- **Default tolerances** only ever let a positive tree accept more, over a steady host: with a valid one
it accepts what it accepts without, and with a greater one what it accepts with the smaller one, in
whatever states that questions lead to. -/
theorem satisfied_withFallback_mono (hsteady : host.Steady s) (hpositive : c.Positive)
    (hvalid : Configuration.validTolerance d = true) (hle : d.le e = true) (v : Value)
    (hs' : host.Reaches s s') (hs'' : host.Reaches s s'') :
    ((c.satisfied host v s').result = true →
      ((c.withFallback d).satisfied host v s'').result = true) ∧
    (((c.withFallback d).satisfied host v s').result = true →
      ((c.withFallback e).satisfied host v s'').result = true) := by
  simp only [hsteady.satisfied_iff hs', hsteady.satisfied_iff hs'', ← Constraint.withDefault_fallback]
  refine ⟨fun h => ?_, .of_loosens (loosens_fallback_fallback hle) hpositive⟩
  rw [← c.withDefault_none] at h
  exact .of_loosens (loosens_fallback (Configuration.le_of_validTolerance hvalid)) hpositive h

end Steady

/-- Below a negation a looser tolerance lets less pass. -/
example :
    let c : Constraint := .not (.equal (.float (.ofInt 4)) none false)
    let v : Value := .float (.ofInt 5)
    (c.satisfied Host.silent v ()).result = true ∧
      ((c.withFallback (.ofInt 1)).satisfied Host.silent v ()).result = false := by
  decide +kernel

/-- Items that differ from what is expected by one at most: they pass under a default tolerance of one and,
after a further run of code, under one of two. -/
theorem satisfied_withFallback_mono_items :
    let host := Host.counting ⟨0⟩ ⟨1, ⟨2, "Refusal"⟩, ⟨3, "no entry"⟩⟩
    let four : Value := .float (.ofInt 4)
    let c : Constraint := .and (.not .isNull) (.items .all (.equal four none false))
    let v : Value := .list [four, .float (.ofInt 5)]
    (host.Steady 0 ∧ c.Positive ∧ Configuration.validTolerance (.ofInt 1) = true ∧
      (Binary64.ofInt 1).le (.ofInt 2) = true ∧ host.Reaches 0 1) ∧
    (c.satisfied host v 0).result = false ∧
    ((c.withFallback (.ofInt 1)).satisfied host v 0).result = true ∧
    ((c.withFallback (.ofInt 2)).satisfied host v 1).result = true := by
  intro host four c v
  have hsteady : host.Steady 0 := Host.steady_counting ..
  have hpositive : c.Positive := ⟨rfl, trivial⟩
  have hvalid : Configuration.validTolerance (.ofInt 1) = true := by decide +kernel
  have hle : (Binary64.ofInt 1).le (.ofInt 2) = true := by decide +kernel
  have hreaches : host.Reaches 0 1 := .run .start ⟨0⟩
  have hone : ((c.withFallback (.ofInt 1)).satisfied host v 0).result = true := by decide +kernel
  obtain ⟨-, hmono⟩ := satisfied_withFallback_mono hsteady hpositive hvalid hle v .start hreaches
  exact ⟨⟨hsteady, hpositive, hvalid, hle, hreaches⟩, by decide +kernel, hone, hmono hone⟩

end Expectation
