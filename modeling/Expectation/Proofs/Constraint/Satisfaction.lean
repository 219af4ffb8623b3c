import Expectation.Constraint.Evaluate

/-!
# Satisfaction

Whether a value satisfies a constraint is a question that the constructors answer one by one, when
failures are left out of sight. Calls and states are kept: the equations are between trials.

* `Trial` is a lawful monad;
* `Host.silent`: a host that knows nothing of its objects;
* `Quantifier.over`: a list tested item by item;
* `satisfied_not`, `satisfied_and`, `satisfied_or`, `satisfied_items`: the combinations;
* `satisfied_propertyIs`, `satisfied_attributeIs`, `satisfied_throwsMatching`: the contexts;
* `satisfied_apply`, `satisfied_of_check`: satisfaction by verdicts.
-/

namespace Expectation

variable {σ : Type}

instance : LawfulMonad (Trial σ) :=
  LawfulMonad.mk' _
    (fun t => funext fun s => by
      show Outcome.mk (t s).result ((t s).calls ++ []) (t s).state = t s
      rw [List.append_nil])
    (fun _ _ => rfl)
    (fun t f g => funext fun s => by simp only [Trial.bind_apply, List.append_assoc])

/-- The host whose objects have no properties and whose code raises no faults. -/
def Host.silent : Host Unit where
  propertyOf _ _ _ := (none, ())
  attributeOf _ _ _ := (none, ())
  instanceOf _ _ _ := (false, ())
  assignableFrom _ _ _ := (false, ())
  run _ _ := (none, ())

/-- As many of the members as the quantifier asks for pass the test. -/
def Quantifier.over (q : Quantifier) (test : Value → Trial σ Bool) (members : List Value) :
    Trial σ Bool :=
  match q with
  | all => members.allM test
  | some => members.anyM test
  | none => do pure (!(← members.anyM test))

@[simp] theorem Verdict.isPass_pass : pass.isPass = true := rfl

@[simp] theorem Verdict.isPass_fail (f : Failure) : (fail f).isPass = false := rfl

namespace Constraint

variable (host : Host σ) (a b c : Constraint) (v : Value)

@[simp] theorem isPass_check (accepted : Bool) : (c.check accepted v).isPass = accepted := by
  cases accepted <;> rfl

@[simp] theorem isPass_blame (seen : Observed) : (c.blame seen).isPass = false := rfl

/-! ## Combinations -/

theorem satisfied_not : (not c).satisfied host v = (do pure (!(← c.satisfied host v))) := by
  simp only [satisfied, evaluate, bind_assoc, pure_bind, isPass_check]

theorem satisfied_and :
    (and a b).satisfied host v =
      (do if ← a.satisfied host v then b.satisfied host v else pure false) := by
  simp only [satisfied, evaluate, bind_assoc, pure_bind]
  refine bind_congr fun verdict => ?_
  cases verdict with
  | pass =>
    simp only [Verdict.isPass_pass, if_true, bind_assoc, pure_bind, Verdict.isPass_along]
  | fail f => rfl

theorem satisfied_or :
    (or a b).satisfied host v =
      (do if ← a.satisfied host v then pure true else b.satisfied host v) := by
  simp only [satisfied, evaluate, bind_assoc, pure_bind]
  refine bind_congr fun verdict => ?_
  cases verdict with
  | pass => rfl
  | fail f =>
    simp only [Verdict.isPass_fail, Bool.false_eq_true, if_false, bind_assoc, pure_bind, isPass_check]

theorem satisfied_items (q : Quantifier) :
    (items q c).satisfied host v =
      match v with
      | .list members => q.over (c.satisfied host) members
      | _ => pure false := by
  cases v with
  | list members =>
    cases q <;> simp only [satisfied, evaluate, bind_assoc, pure_bind, bind_pure, isPass_check] <;> rfl
  | _ => rfl

/-! ## Contexts -/

theorem satisfied_propertyIs (name : String) :
    (propertyIs name c).satisfied host v = (do
      match ← v.property? host name with
      | some found => c.satisfied host found
      | none => pure false) := by
  simp only [satisfied, evaluate, bind_assoc]
  refine bind_congr fun found => ?_
  cases found with
  | some found => simp only [bind_assoc, pure_bind, Verdict.isPass_within]
  | none => rfl

theorem satisfied_attributeIs (name : String) :
    (attributeIs name c).satisfied host v = (do
      match ← v.attribute? host name with
      | some found => c.satisfied host found
      | none => pure false) := by
  simp only [satisfied, evaluate, bind_assoc]
  refine bind_congr fun found => ?_
  cases found with
  | some found => simp only [bind_assoc, pure_bind, Verdict.isPass_within]
  | none => rfl

theorem satisfied_throwsMatching :
    (throwsMatching c).satisfied host v =
      match v with
      | .code code => (do
        match ← host.raised code with
        | some fault => c.satisfied host (.fault fault)
        | none => pure false)
      | _ => pure false := by
  cases v with
  | code code =>
    simp only [satisfied, evaluate, bind_assoc]
    refine bind_congr fun fault => ?_
    cases fault with
    | some fault => simp only [bind_assoc, pure_bind, Verdict.isPass_within]
    | none => rfl
  | _ => rfl

/-! ## Verdicts -/

theorem satisfied_apply (s : σ) :
    c.satisfied host v s =
      ⟨(c.evaluate host v s).result.isPass, (c.evaluate host v s).calls,
        (c.evaluate host v s).state⟩ := by
  rw [satisfied, Trial.bind_apply, Trial.pure_apply, List.append_nil]

theorem satisfied_of_check {host : Host σ} {c : Constraint} {v : Value} {accepted : Bool}
    (h : c.evaluate host v = pure (c.check accepted v)) : c.satisfied host v = pure accepted := by
  rw [satisfied, h, pure_bind, isPass_check]

end Constraint

end Expectation
