import Expectation.Proofs.Constraint.Expected
import Expectation.Proofs.Constraint.Satisfaction

/-!
# Constraints as predicates

Over a host without states a constraint is a predicate on values, and each node combines the predicates of
the nodes below it. A steady host gives the answers of such a host.

* `Constraint.Holds`: the value satisfies the constraint;
* `holds_not`, `holds_and`, `holds_or`: the combinations;
* `holds_all`, `holds_some`, `holds_none`: the quantifiers, which lists alone satisfy;
* `holds_within`, `Holds.within_mono`: the contexts;
* **`Host.Steady.satisfied_iff`**: satisfaction over a steady host.
-/

namespace Expectation

/-! ## Tests of lists -/

namespace Trial

variable {α : Type} (test : α → Trial Unit Bool) (members : List α)

theorem result_allM : (members.allM test ()).result = members.all fun a => (test a ()).result := by
  induction members with
  | nil => rfl
  | cons a members ih =>
    rw [List.allM, List.all_cons, ← ih, bind_apply]
    cases (test a ()).result <;> rfl

theorem result_anyM : (members.anyM test ()).result = members.any fun a => (test a ()).result := by
  induction members with
  | nil => rfl
  | cons a members ih =>
    rw [List.anyM, List.any_cons, ← ih, bind_apply]
    cases (test a ()).result <;> rfl

end Trial

/-! ## Nodes -/

namespace Constraint

/-- The value satisfies the constraint, over a host without states. -/
def Holds (host : Host Unit) (c : Constraint) (v : Value) : Prop := (c.satisfied host v ()).result = true

section Holds

variable {host : Host Unit} {a b c frame inner : Constraint} {v : Value}

theorem holds_not : (not c).Holds host v ↔ ¬c.Holds host v := by
  rw [Holds, satisfied_not, Trial.bind_apply, Holds]
  simp [Trial.pure_apply]

theorem holds_and : (and a b).Holds host v ↔ a.Holds host v ∧ b.Holds host v := by
  rw [Holds, satisfied_and, Trial.bind_apply, Holds, Holds]
  cases (a.satisfied host v ()).result <;> simp [Trial.pure_apply]

theorem holds_or : (or a b).Holds host v ↔ a.Holds host v ∨ b.Holds host v := by
  rw [Holds, satisfied_or, Trial.bind_apply, Holds, Holds]
  cases (a.satisfied host v ()).result <;> simp [Trial.pure_apply]

theorem holds_all :
    (items .all c).Holds host v ↔ ∃ members, v = .list members ∧ ∀ m ∈ members, c.Holds host m := by
  rw [Holds, satisfied_items]
  cases v with
  | list members => simp [Quantifier.over, Trial.result_allM, Holds]
  | _ => simp [Trial.pure_apply]

theorem holds_some :
    (items .some c).Holds host v ↔ ∃ members, v = .list members ∧ ∃ m ∈ members, c.Holds host m := by
  rw [Holds, satisfied_items]
  cases v with
  | list members => simp [Quantifier.over, Trial.result_anyM, Holds]
  | _ => simp [Trial.pure_apply]

theorem holds_none :
    (items .none c).Holds host v ↔ ∃ members, v = .list members ∧ ∀ m ∈ members, ¬c.Holds host m := by
  rw [Holds, satisfied_items]
  cases v with
  | list members =>
    simp only [Quantifier.over, Trial.bind_apply, Trial.result_anyM]
    simp [Trial.pure_apply, Holds]
  | _ => simp [Trial.pure_apply]

theorem holds_within (henc : Encloses frame inner) :
    frame.Holds host v ↔ ∃ found, derived? host () frame v = some found ∧ inner.Holds host found := by
  cases henc with
  | propertyIs name inner =>
    rw [Holds, satisfied_propertyIs, Trial.bind_apply, derived?]
    cases (v.property? host name ()).result with
    | some found => simp [Holds]
    | none => exact iff_of_false Bool.false_ne_true nofun
  | attributeIs name inner =>
    rw [Holds, satisfied_attributeIs, Trial.bind_apply, derived?]
    cases (v.attribute? host name ()).result with
    | some found => simp [Holds]
    | none => exact iff_of_false Bool.false_ne_true nofun
  | throwsMatching inner =>
    rw [Holds, satisfied_throwsMatching]
    cases v with
    | code code =>
      have hraised : (host.raised code ()).result = (host.run code ()).1 := rfl
      simp only [Trial.bind_apply, hraised, derived?]
      cases (host.run code ()).1 with
      | some fault => simp [Holds]
      | none => exact iff_of_false Bool.false_ne_true nofun
    | _ => exact iff_of_false Bool.false_ne_true nofun

theorem Holds.within_mono {inner' : Constraint} (h : frame.Holds host v) (henc : Encloses frame inner)
    (hinner : ∀ found, inner.Holds host found → inner'.Holds host found) :
    (frame.withInner inner').Holds host v := by
  obtain ⟨found, hfound, hholds⟩ := (holds_within henc).mp h
  cases henc with
  | propertyIs name => exact (holds_within (.propertyIs name _)).mpr ⟨found, hfound, hinner found hholds⟩
  | attributeIs name => exact (holds_within (.attributeIs name _)).mpr ⟨found, hfound, hinner found hholds⟩
  | throwsMatching =>
    have hfound' : derived? host () inner'.throwsMatching v = some found := by
      cases v <;> exact hfound
    exact (holds_within (.throwsMatching _)).mpr ⟨found, hfound', hinner found hholds⟩

end Holds

end Constraint

/-! ## Steady hosts -/

theorem Host.Steady.satisfied_iff {σ : Type} {host : Host σ} {s s' : σ} {c : Constraint} {v : Value}
    (hsteady : host.Steady s) (hs : host.Reaches s s') :
    (c.satisfied host v s').result = true ↔ c.Holds (host.frozen s) v := by
  rw [Constraint.Holds, Constraint.satisfied_apply, Constraint.satisfied_apply,
    hsteady.result_evaluate hs]

end Expectation
