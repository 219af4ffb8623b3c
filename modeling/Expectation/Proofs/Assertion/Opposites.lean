import Expectation.Proofs.Assertion.Verdict
import Expectation.Proofs.Constraint.Blame
import Expectation.Proofs.Constraint.Negation
import Expectation.Proofs.Value.Order

/-!
# Opposite checks

Of a check and its opposite one passes and the other rejects the value, since the chain of the one resolves
to the negation of what the chain of the other resolves to, or to what this becomes when negations are pushed
inward. Two checks of order that name the values the other way round pass together.

* `Classic.Opposites`: the pairs of checks;
* `Opposed`, `Complementary`: two ends, and two reports;
* `Constraint.Agrees`, `Constraint.Unasked`: constraints that come to one verdict in two states, and those
  that look at the value only;
* `complementary_run`: checks with opposite verdicts;
* `Comparison.converse`, `satisfied_ordering_converse`: comparisons read backwards;
* **`opposites_complement`**: all pairs of checks.
-/

namespace Expectation

variable {σ : Type}

/-- The second check is the opposite of the first. -/
inductive Classic.Opposites (expected : Value) (typeName : String) (actual : Actual σ) :
    Check σ → Check σ → Prop
  | equal : Opposites expected typeName actual (areEqual expected actual) (areNotEqual expected actual)
  | same : Opposites expected typeName actual (areSame expected actual) (areNotSame expected actual)
  | null : Opposites expected typeName actual (isNull actual) (isNotNull actual)
  | empty : Opposites expected typeName actual (isEmpty actual) (isNotEmpty actual)
  | nullOrEmpty : Opposites expected typeName actual (isNullOrEmpty actual) (isNotNullOrEmpty actual)
  | instanceOf :
      Opposites expected typeName actual (isInstanceOf actual typeName) (isNotInstanceOf actual typeName)
  | assignableFrom : Opposites expected typeName actual (isAssignableFrom actual typeName)
      (isNotAssignableFrom actual typeName)

/-- One of the two is a pass and the other the rejection of a value. -/
def Opposed (r r' : Except AssertError Unit) : Prop :=
  r = .ok () ∧ (∃ text, r' = .error (.failed text)) ∨
    (∃ text, r = .error (.failed text)) ∧ r' = .ok ()

/-- Of two assertions made with these counters one passes and the other rejects its value, and each is
counted once. -/
structure Complementary (counter counter' : Counter) (r r' : Report σ Unit) : Prop where
  opposed : Opposed r.result r'.result
  counted : r.counter = counter.increment
  counted' : r'.counter = counter'.increment

theorem opposed_ending {verdict verdict' : Verdict} (h : verdict'.isPass = !verdict.isPass) :
    Opposed verdict.ending verdict'.ending := by
  cases verdict with
  | pass =>
    cases verdict' with
    | pass => cases h
    | fail f => exact .inl ⟨rfl, _, rfl⟩
  | fail f =>
    cases verdict' with
    | pass => exact .inr ⟨⟨_, rfl⟩, rfl⟩
    | fail g => cases h

/-! ## Verdicts in two states -/

namespace Constraint

variable {host : Host σ} {a b c : Constraint} {v : Value} {s s' : σ}

/-- The constraint accepts the value in both states or in neither. -/
def Agrees (host : Host σ) (c : Constraint) (v : Value) (s s' : σ) : Prop :=
  (c.evaluate host v s).result.isPass = (c.evaluate host v s').result.isPass

/-- The constraint looks at the value only. -/
def Unasked (host : Host σ) (c : Constraint) (v : Value) : Prop :=
  ∃ accepted, c.satisfied host v = pure accepted

theorem Unasked.of_check {accepted : Bool} (h : c.evaluate host v = pure (c.check accepted v)) :
    c.Unasked host v := ⟨accepted, satisfied_of_check h⟩

theorem unasked_isEmpty (host : Host σ) (v : Value) : isEmpty.Unasked host v := by
  cases v with
  | list members =>
    cases members with
    | nil => exact ⟨true, rfl⟩
    | cons m members => exact ⟨false, rfl⟩
  | _ => exact .of_check rfl

theorem Unasked.or (ha : a.Unasked host v) (hb : b.Unasked host v) : (or a b).Unasked host v := by
  obtain ⟨accepted, ha⟩ := ha
  rw [Unasked, satisfied_or, ha, pure_bind]
  cases accepted with
  | true => exact ⟨true, rfl⟩
  | false => exact hb

theorem Unasked.agrees (h : c.Unasked host v) (s s' : σ) : c.Agrees host v s s' := by
  obtain ⟨accepted, h⟩ := h
  have hpass (t : σ) : (c.evaluate host v t).result.isPass = accepted := by
    have ht := congrArg Outcome.result (congrFun h t)
    rwa [satisfied_apply] at ht
  rw [Agrees, hpass, hpass]

theorem agrees_instanceOf {name : String}
    (h : (v.isInstance host name s).result = (v.isInstance host name s').result) :
    (instanceOf name).Agrees host v s s' := by
  rw [Agrees, evaluate, Trial.bind_apply, Trial.bind_apply, h]
  rfl

theorem agrees_assignableFrom {name : String}
    (h : (v.isAssignable host name s).result = (v.isAssignable host name s').result) :
    (assignableFrom name).Agrees host v s s' := by
  rw [Agrees, evaluate, Trial.bind_apply, Trial.bind_apply, h]
  rfl

theorem Agrees.isPass_not (h : c.Agrees host v s s') :
    ((not c).evaluate host v s').result.isPass = !(c.evaluate host v s).result.isPass := by
  rw [h]
  exact isPass_check (not c) v _

theorem Agrees.isPass_neither (h : (or a b).Agrees host v s s') :
    ((and (not a) (not b)).evaluate host v s').result.isPass =
      !((or a b).evaluate host v s).result.isPass := by
  have hpushed : (not (or a b)).satisfied host v s' = (and (not a) (not b)).satisfied host v s' :=
    congrFun (congrFun (satisfied_eq_of_pushes (.notOr a b)) v) s'
  rw [satisfied_apply, satisfied_apply, Outcome.mk.injEq] at hpushed
  exact hpushed.1.symm.trans h.isPass_not

end Constraint

open Constraint

section Checks

variable {host : Host σ} {c d : Constraint} {actual : Actual σ} {v : Value} {asked asked' : List Call}
  {counter counter' : Counter} {s s' t t' : σ} {words words' : List Chain.Word}

/-- **Checks of one value** whose constraints come to opposite verdicts. -/
theorem complementary_run (hv : actual.compute counter.increment s = ⟨v, asked, t⟩)
    (hv' : actual.compute counter'.increment s' = ⟨v, asked', t'⟩)
    (hc : (Chain.ofWords words).resolve = .ok c) (hd : (Chain.ofWords words').resolve = .ok d)
    (h : (d.evaluate host v t').result.isPass = !(c.evaluate host v t).result.isPass) :
    Complementary counter counter' ((Check.mk actual words).run host counter s)
      ((Check.mk actual words').run host counter' s') := by
  refine ⟨?_, (Check.run_of_resolve hc hv).2.1, (Check.run_of_resolve hd hv').2.1⟩
  rw [(Check.run_of_resolve hc hv).1, (Check.run_of_resolve hd hv').1]
  exact opposed_ending h

end Checks

/-! ## Comparisons -/

/-- The comparison of the same two values the other way round. -/
def Comparison.converse : Comparison → Comparison
  | greater => less
  | greaterOrEqual => lessOrEqual
  | less => greater
  | lessOrEqual => greaterOrEqual

theorem Comparison.holds_converse (k : Comparison) (o : Ordering) : k.converse.holds o.swap = k.holds o := by
  cases k <;> cases o <;> rfl

/-- **Comparisons read backwards**, in whatever states: none of them asks anything. -/
theorem satisfied_ordering_converse (host : Host σ) (k : Comparison) (a b : Value) (s s' : σ) :
    ((ordering k.converse a).satisfied host b s').result = ((ordering k b).satisfied host a s).result := by
  rw [satisfied_ordering, satisfied_ordering, Value.compare?_swap b a]
  cases a.compare? b with
  | none => rfl
  | some o => exact k.holds_converse o

/-! ## All pairs -/

/-- **Opposite checks** of one value are complementary, if the host answers the question about the type of
the value alike in both: one passes, the other rejects the value, and each counts one assertion. One value is
asserted to be greater than another just if this one is asserted to be less than the first, and not less just
if not greater. Values may be computed on demand, and leave the states in which they are tested. -/
theorem opposites_complement (host : Host σ) (expected : Value) (typeName : String)
    (counter counter' : Counter) {actual : Actual σ} {v : Value} {asked asked' : List Call} {s s' t t' : σ}
    (hv : actual.compute counter.increment s = ⟨v, asked, t⟩)
    (hv' : actual.compute counter'.increment s' = ⟨v, asked', t'⟩)
    (hinstance : (v.isInstance host typeName t).result = (v.isInstance host typeName t').result)
    (hassignable : (v.isAssignable host typeName t).result = (v.isAssignable host typeName t').result) :
    (∀ check opposite, Classic.Opposites expected typeName actual check opposite →
      Complementary counter counter' (check.run host counter s) (opposite.run host counter' s')) ∧
    ∀ (other : Actual σ) (calls : List Call) (u : σ),
      other.compute counter'.increment s' = ⟨expected, calls, u⟩ →
      (((Classic.greater actual expected).run host counter s).result = .ok () ↔
        ((Classic.less other v).run host counter' s').result = .ok ()) ∧
      (((Classic.greaterOrEqual actual expected).run host counter s).result = .ok () ↔
        ((Classic.lessOrEqual other v).run host counter' s').result = .ok ()) := by
  have hnull : isNull.Unasked host v := .of_check rfl
  have hempty := unasked_isEmpty host v
  refine ⟨fun check opposite h => ?_, fun other calls u hother => ⟨?_, ?_⟩⟩
  · cases h with
    | equal | same =>
      exact complementary_run hv hv' rfl rfl ((Unasked.of_check rfl).agrees t t').isPass_not
    | null => exact complementary_run hv hv' rfl rfl (hnull.agrees t t').isPass_not
    | empty => exact complementary_run hv hv' rfl rfl (hempty.agrees t t').isPass_not
    | nullOrEmpty => exact complementary_run hv hv' rfl rfl ((hnull.or hempty).agrees t t').isPass_neither
    | instanceOf => exact complementary_run hv hv' rfl rfl (agrees_instanceOf hinstance).isPass_not
    | assignableFrom => exact complementary_run hv hv' rfl rfl (agrees_assignableFrom hassignable).isPass_not
  · rw [Classic.greater, Check.run_eq_ok_iff_of_compute rfl hv, Classic.less,
      Check.run_eq_ok_iff_of_compute rfl hother, ← satisfied_ordering_converse host .greater v expected t u]
    rfl
  · rw [Classic.greaterOrEqual, Check.run_eq_ok_iff_of_compute rfl hv, Classic.lessOrEqual,
      Check.run_eq_ok_iff_of_compute rfl hother,
      ← satisfied_ordering_converse host .greaterOrEqual v expected t u]
    rfl

/-- An object that is computed on demand, over a host that counts its questions: it is of no type in either
state, it is not null, and it is not greater than null. -/
theorem opposites_complement_object :
    let host := Host.counting ⟨0⟩ ⟨1, ⟨2, "Refusal"⟩, ⟨3, "no entry"⟩⟩
    let door : Value := .object ⟨4, "Door", "<Door>", "Door"⟩
    let actual : Actual Nat := .onDemand fun counter n => ⟨door, [], n + counter.count.toNat⟩
    (actual.compute Counter.zero.increment 0 = ⟨door, [.compute], 1⟩ ∧
      actual.compute (Counter.mk 1).increment 1 = ⟨door, [.compute], 3⟩ ∧
      (door.isInstance host "Door" 1).result = (door.isInstance host "Door" 3).result ∧
      (door.isAssignable host "Door" 1).result = (door.isAssignable host "Door" 3).result) ∧
    Complementary .zero ⟨1⟩ ((Classic.isInstanceOf actual "Door").run host .zero 0)
      ((Classic.isNotInstanceOf actual "Door").run host ⟨1⟩ 1) ∧
    Complementary .zero ⟨1⟩ ((Classic.isNullOrEmpty actual).run host .zero 0)
      ((Classic.isNotNullOrEmpty actual).run host ⟨1⟩ 1) ∧
    (((Classic.greater actual .null).run host .zero 0).result = .ok () ↔
      ((Classic.less (.value .null) door).run host ⟨1⟩ 1).result = .ok ()) := by
  intro host door actual
  have hv : actual.compute Counter.zero.increment 0 = ⟨door, [.compute], 1⟩ := rfl
  have hv' : actual.compute (Counter.mk 1).increment 1 = ⟨door, [.compute], 3⟩ := rfl
  have hinstance : (door.isInstance host "Door" 1).result = (door.isInstance host "Door" 3).result := rfl
  have hassignable : (door.isAssignable host "Door" 1).result = (door.isAssignable host "Door" 3).result :=
    rfl
  obtain ⟨hpairs, horder⟩ := opposites_complement host .null "Door" .zero ⟨1⟩ hv hv' hinstance hassignable
  exact ⟨⟨hv, hv', hinstance, hassignable⟩, hpairs _ _ .instanceOf, hpairs _ _ .nullOrEmpty,
    (horder (.value .null) [] 1 rfl).1⟩

end Expectation
