import Expectation.Assertion.Classic
import Expectation.Proofs.Constraint.Satisfaction

/-!
# How assertions end

An assertion whose goal resolves ends as the verdict of its constraint says, and passes just if its value
satisfies the constraint.

* `conclude_eq_ok_iff`, `conclude_fail`: the end that a verdict leads to;
* `assertThat_of_resolve`, `assertThat_eq_ok_iff`: assertions;
* `Verdict.ending`, `Check.run_of_resolve`, `Check.run_eq_ok_iff`: checks.
-/

namespace Expectation

variable {σ : Type} {host : Host σ} {settings : Settings} {actual : Actual σ} {goal : Goal}
  {message : Message} {c : Constraint} {v : Value} {counter : Counter} {s : σ}

theorem conclude_eq_ok_iff {count : UInt64} {verdict : Verdict} :
    (conclude settings message count c verdict).1 = .ok () ↔ verdict.isPass = true := by
  cases verdict with
  | pass => exact iff_of_true rfl rfl
  | fail f =>
    refine iff_of_false ?_ Bool.false_ne_true
    unfold conclude
    cases message.render <;> exact nofun

theorem conclude_fail {count : UInt64} {f : Failure} {text : String}
    (hrender : message.render = .ok text) :
    (conclude settings message count c (.fail f)).1 =
      .error (.failed (f.report settings.limits text)) := by
  rw [conclude, hrender]

theorem assertThat_of_resolve (settings : Settings) (hgoal : goal.resolve = .ok c) :
    let computed := actual.compute counter.increment s
    let outcome := (settings.prepare c).evaluate host computed.result computed.state
    let report := assertThat host settings actual goal message counter s
    report.result =
      (conclude settings message counter.increment.count (settings.prepare c) outcome.result).1 ∧
    report.counter = counter.increment ∧ report.state = outcome.state ∧
    report.calls = computed.calls ++ outcome.calls := by
  rw [assertThat, hgoal]
  exact ⟨rfl, rfl, rfl, rfl⟩

/-- **An assertion passes** just if its goal resolves to a constraint, given here, that the value
satisfies. -/
theorem assertThat_eq_ok_iff (h : goal.resolve = .ok c) :
    (assertThat host settings actual goal message counter s).result = .ok () ↔
      ((do (settings.prepare c).satisfied host (← actual.compute counter.increment) : Trial σ Bool)
        s).result = true := by
  rw [assertThat, h]
  exact conclude_eq_ok_iff

/-! ## Checks -/

/-- The end of a check with this verdict. -/
def Verdict.ending : Verdict → Except AssertError Unit
  | pass => .ok ()
  | fail f => .error (.failed (f.report .default ""))

section Check

variable {words : List Chain.Word} {asked : List Call} {t : σ}

/-- **A check** whose chain resolves is counted, computes its value, given here, and does what testing this
value does. -/
theorem Check.run_of_resolve (h : (Chain.ofWords words).resolve = .ok c)
    (hv : actual.compute counter.increment s = ⟨v, asked, t⟩) :
    let outcome := c.evaluate host v t
    let report := (Check.mk actual words).run host counter s
    report.result = outcome.result.ending ∧ report.counter = counter.increment ∧
      report.calls = asked ++ outcome.calls ∧ report.state = outcome.state := by
  intro outcome report
  have hgoal : (Goal.chain (.ofWords words)).resolve = .ok c := h
  obtain ⟨hresult, hcounter, hstate, hcalls⟩ : report.result = _ ∧ _ := assertThat_of_resolve _ hgoal
  rw [hv] at hresult hstate hcalls
  refine ⟨hresult.trans ?_, hcounter, hcalls, hstate⟩
  show (conclude .default .none _ c outcome.result).1 = _
  cases outcome.result <;> rfl

theorem Check.run_eq_ok_iff_of_compute (h : (Chain.ofWords words).resolve = .ok c)
    (hv : actual.compute counter.increment s = ⟨v, asked, t⟩) :
    ((Check.mk actual words).run host counter s).result = .ok () ↔
      (c.satisfied host v t).result = true := by
  have hgoal : (Goal.chain (.ofWords words)).resolve = .ok c := h
  refine (assertThat_eq_ok_iff hgoal).trans ?_
  rw [Trial.bind_apply, hv]
  rfl

theorem Check.run_eq_ok_iff (h : (Chain.ofWords words).resolve = .ok c) :
    ((Check.mk (.value v) words).run host counter s).result = .ok () ↔
      (c.satisfied host v s).result = true :=
  Check.run_eq_ok_iff_of_compute h rfl

end Check

end Expectation
