import Expectation.Proofs.Constraint.Predicate
import Expectation.Proofs.Value.Order

/-!
# The algebra of quantifiers

That all items satisfy a constraint is that none satisfies its negation, and is found out by the same
questions. Over steady hosts the quantifiers distribute over the combinations as those of logic do, though a
combination of two quantified constraints goes through the list twice. Lists alone satisfy any of them.

* `Constraint.SameTest`, `Constraint.Alike`: constraints that accept a value alike, by the same questions or
  whatever they ask;
* `satisfied_all`, `satisfied_contains`: all items by no item, and containment by some item;
* `holds_all_and`, `holds_some_or`, `holds_none_or`: quantifiers over combinations;
* `ForLists`, `satisfied_of_forLists`: combinations of quantifiers, which reject all else unasked;
* **`quantifier_algebra`**: all these laws.
-/

namespace Expectation

namespace Constraint

variable {σ : Type} {host : Host σ} {a b c d : Constraint} {e v : Value} {s : σ}

/-- In every state the constraints accept the value alike, ask the host the same and leave it alike. -/
def SameTest (host : Host σ) (c d : Constraint) (v : Value) : Prop :=
  ∀ s, (c.evaluate host v s).result.isPass = (d.evaluate host v s).result.isPass ∧
    (c.evaluate host v s).calls = (d.evaluate host v s).calls ∧
    (c.evaluate host v s).state = (d.evaluate host v s).state

/-- In whatever states that questions lead to the constraints accept the value alike. -/
def Alike (host : Host σ) (s : σ) (c d : Constraint) (v : Value) : Prop :=
  ∀ s', host.Reaches s s' → ∀ s'', host.Reaches s s'' →
    (c.evaluate host v s').result.isPass = (d.evaluate host v s'').result.isPass

/-- The constraint rejects the value and does not ask the host about it. -/
def RejectsUnasked (host : Host σ) (c : Constraint) (v : Value) : Prop :=
  ∀ s, (c.evaluate host v s).result.isPass = false ∧ (c.evaluate host v s).calls = [] ∧
    (c.evaluate host v s).state = s

theorem SameTest.of_satisfied (h : c.satisfied host v = d.satisfied host v) : SameTest host c d v := by
  intro s
  have hs := congrFun h s
  rw [satisfied_apply, satisfied_apply, Outcome.mk.injEq] at hs
  exact hs

theorem RejectsUnasked.of_satisfied (h : c.satisfied host v = pure false) : c.RejectsUnasked host v := by
  intro s
  have hs := congrFun h s
  rw [satisfied_apply, Trial.pure_apply, Outcome.mk.injEq] at hs
  exact hs

/-! ## Laws for every host -/

/-- **All items satisfy a constraint** if none satisfies its negation, by the same questions. -/
theorem satisfied_all (host : Host σ) (c : Constraint) (v : Value) :
    (items .all c).satisfied host v = (items .none (not c)).satisfied host v := by
  rw [satisfied_items, satisfied_items]
  cases v with
  | list members =>
    have hnot : (not c).satisfied host = fun m => (! ·) <$> c.satisfied host m :=
      funext fun m => (satisfied_not host c m).trans (map_eq_pure_bind ..).symm
    show members.allM (c.satisfied host) = _
    rw [List.allM_eq_not_anyM_not, hnot]
    exact map_eq_pure_bind ..
  | _ => rfl

/-- **A value is contained** in a list if some item is equal to it. -/
theorem satisfied_contains (host : Host σ) (e v : Value) :
    (contains e).satisfied host v = (items .some (equal e none false)).satisfied host v := by
  rw [satisfied_items]
  cases v with
  | list members =>
    have hequal : (equal e none false).satisfied host = fun m => pure (e.matching none false m) :=
      funext fun m => satisfied_of_check rfl
    show _ = members.anyM _
    rw [hequal, List.anyM_pure]
    exact satisfied_of_check rfl
  | _ => exact satisfied_of_check rfl

/-! ## Laws for steady hosts -/

section Holds

variable {host : Host Unit}

theorem holds_all_and :
    (items .all (and a b)).Holds host v ↔ (and (items .all a) (items .all b)).Holds host v := by
  rw [holds_and, holds_all, holds_all, holds_all]
  constructor
  · rintro ⟨members, rfl, h⟩
    exact ⟨⟨members, rfl, fun m hm => (holds_and.mp (h m hm)).1⟩,
      members, rfl, fun m hm => (holds_and.mp (h m hm)).2⟩
  · rintro ⟨⟨members, rfl, ha⟩, _, ⟨⟩, hb⟩
    exact ⟨members, rfl, fun m hm => holds_and.mpr ⟨ha m hm, hb m hm⟩⟩

theorem holds_some_or :
    (items .some (or a b)).Holds host v ↔ (or (items .some a) (items .some b)).Holds host v := by
  rw [holds_or, holds_some, holds_some, holds_some]
  constructor
  · rintro ⟨members, rfl, m, hm, h⟩
    exact (holds_or.mp h).imp (fun ha => ⟨members, rfl, m, hm, ha⟩) fun hb => ⟨members, rfl, m, hm, hb⟩
  · rintro (⟨members, rfl, m, hm, ha⟩ | ⟨members, rfl, m, hm, hb⟩)
    · exact ⟨members, rfl, m, hm, holds_or.mpr (.inl ha)⟩
    · exact ⟨members, rfl, m, hm, holds_or.mpr (.inr hb)⟩

theorem holds_none_or :
    (items .none (or a b)).Holds host v ↔ (and (items .none a) (items .none b)).Holds host v := by
  rw [holds_and, holds_none, holds_none, holds_none]
  constructor
  · rintro ⟨members, rfl, h⟩
    exact ⟨⟨members, rfl, fun m hm ha => h m hm (holds_or.mpr (.inl ha))⟩,
      members, rfl, fun m hm hb => h m hm (holds_or.mpr (.inr hb))⟩
  · rintro ⟨⟨members, rfl, ha⟩, _, ⟨⟩, hb⟩
    exact ⟨members, rfl, fun m hm h => (holds_or.mp h).elim (ha m hm) (hb m hm)⟩

theorem holds_some_list {members : List Value} :
    (items .some c).Holds host (.list members) ↔ (not (items .none c)).Holds host (.list members) := by
  simp [holds_not, holds_some, holds_none]

end Holds

theorem alike_of_holds (hsteady : host.Steady s)
    (h : c.Holds (host.frozen s) v ↔ d.Holds (host.frozen s) v) : Alike host s c d v := by
  intro s' hs' s'' hs''
  have hiff := ((hsteady.satisfied_iff hs').trans h).trans (hsteady.satisfied_iff hs'').symm
  rwa [← Bool.eq_iff_iff, satisfied_apply, satisfied_apply] at hiff

/-! ## Values that are no lists -/

/-- The constraint is a quantifier, a test for an item, or a combination of such constraints only. -/
def ForLists : Constraint → Prop
  | items _ _ | contains _ => True
  | and a b | or a b => ForLists a ∧ ForLists b
  | _ => False

/-- **Quantifiers reject what is no list**, alone and combined, and ask nothing about it. -/
theorem satisfied_of_forLists (host : Host σ) (hc : c.ForLists) (hv : v.asList = none) :
    c.satisfied host v = pure false := by
  induction c with
  | items q c =>
    rw [satisfied_items]
    cases v with
    | list members => cases hv
    | _ => rfl
  | contains e =>
    cases v with
    | list members => cases hv
    | _ => rfl
  | and a b iha _ =>
    rw [satisfied_and, iha hc.1]
    rfl
  | or a b iha ihb =>
    rw [satisfied_or, iha hc.1, pure_bind]
    exact ihb hc.2
  | _ => exact hc.elim

end Constraint

open Constraint

/-- **The algebra of quantifiers.** In every state of every host, all items satisfy a constraint just if none
satisfies its negation, and a value is contained just if some item is equal to it, by the same questions in
the same order. Over a steady host, all items satisfy two constraints just if all satisfy the one and all the
other, some item satisfies one of two just if some satisfies the one or some the other, and none satisfies
either just if none satisfies the one and none the other; of a list some item satisfies a constraint just if
it is not so that none does. A value that is no list is rejected by all of these. -/
theorem quantifier_algebra {σ : Type} (host : Host σ) (a b : Constraint) (e v : Value) :
    (SameTest host (items .all a) (items .none (not a)) v ∧
      SameTest host (contains e) (items .some (equal e none false)) v) ∧
    (∀ s, host.Steady s →
      Alike host s (items .all (and a b)) (and (items .all a) (items .all b)) v ∧
      Alike host s (items .some (or a b)) (or (items .some a) (items .some b)) v ∧
      Alike host s (items .none (or a b)) (and (items .none a) (items .none b)) v ∧
      ∀ members, v = .list members → Alike host s (items .some a) (not (items .none a)) v) ∧
    (v.asList = none → ∀ c : Constraint, c.ForLists → c.RejectsUnasked host v) := by
  refine ⟨⟨.of_satisfied (satisfied_all host a v), .of_satisfied (satisfied_contains host e v)⟩,
    fun s hsteady => ⟨?_, ?_, ?_, ?_⟩, fun hv c hc => .of_satisfied (satisfied_of_forLists host hc hv)⟩
  · exact alike_of_holds hsteady holds_all_and
  · exact alike_of_holds hsteady holds_some_or
  · exact alike_of_holds hsteady holds_none_or
  · rintro members rfl
    exact alike_of_holds hsteady holds_some_list

/-- Over code that raises a fault in every other run the two ways through a list differ. -/
example :
    let fault : Fault := ⟨1, ⟨2, "Refusal"⟩, ⟨3, "no entry"⟩⟩
    let host : Host Nat :=
      { Host.counting ⟨0⟩ fault with run := fun _ n => (if n % 2 = 0 then some fault else none, n + 1) }
    let v : Value := .list [.code ⟨4⟩, .code ⟨5⟩]
    ((items .all (and throws throwsNothing)).evaluate host v 0).result.isPass = true ∧
      ((and (items .all throws) (items .all throwsNothing)).evaluate host v 0).result.isPass = false := by
  decide

/-- Two blocks of code over a host that counts its questions: what holds of them together in the first state
holds of each in a later one. An object is no list of them. -/
theorem quantifier_algebra_codes :
    let host := Host.counting ⟨0⟩ ⟨1, ⟨2, "Refusal"⟩, ⟨3, "no entry"⟩⟩
    let v : Value := .list [.code ⟨4⟩, .code ⟨5⟩]
    let door : Value := .object ⟨6, "Door", "<Door>", "Door"⟩
    let c : Constraint := and (items .all throws) (items .all (not isNull))
    (host.Steady 0 ∧ host.Reaches 0 1) ∧
    ((items .all (and throws (not isNull))).evaluate host v 0).result.isPass = true ∧
    (c.evaluate host v 1).result.isPass = true ∧
    (door.asList = none ∧ c.ForLists) ∧ (c.evaluate host door 0).result.isPass = false := by
  intro host v door c
  have hsteady : host.Steady 0 := Host.steady_counting ..
  have hreaches : host.Reaches 0 1 := .run .start ⟨4⟩
  have htogether : ((items .all (and throws (not isNull))).evaluate host v 0).result.isPass = true := rfl
  have hlists : c.ForLists := ⟨trivial, trivial⟩
  obtain ⟨-, hlaws, -⟩ := quantifier_algebra host throws (not isNull) .null v
  obtain ⟨-, -, hunasked⟩ := quantifier_algebra host throws (not isNull) .null door
  have heach := (hlaws 0 hsteady).1 0 .start 1 hreaches
  exact ⟨⟨hsteady, hreaches⟩, htogether, heach.symm.trans htogether, ⟨rfl, hlists⟩,
    (hunasked rfl c hlists 0).1⟩

end Expectation
