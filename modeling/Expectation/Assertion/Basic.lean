import Expectation.Assertion.Counter
import Expectation.Assertion.Error
import Expectation.Assertion.Event
import Expectation.Constraint.Evaluate
import Expectation.Constraint.Report
import Expectation.Message.Basic

/-!
# Assertions

An assertion resolves its expression, counts itself, computes the actual value, evaluates the
constraint and reports a rejection with the user's message.

* `Settings`: the limits of failure texts and the default tolerance;
* `Goal`, `Actual`: what is expected, and the value under test, which may be computed on demand;
* `Report`: how an assertion ended and all that it did on the way;
* `assertThat`: an assertion;
* `Signal`, `Signal.raise`: the ends of a test without an assertion.
-/

namespace Expectation

/-- The settings of assertions. -/
structure Settings where
  limits : RenderLimits
  /-- The tolerance of equalities between doubles that have none of their own. -/
  defaultTolerance : Option Binary64

/-- The settings that nothing was changed in. -/
def Settings.default : Settings := ⟨.default, none⟩

/-- The constraint under the settings. -/
def Settings.prepare (settings : Settings) (c : Constraint) : Constraint :=
  match settings.defaultTolerance with
  | some amount => c.withFallback amount
  | none => c

/-! ## What is asserted -/

/-- What is expected: an expression, or a constraint as it stands. -/
inductive Goal where
  | chain (c : Chain)
  | constraint (c : Constraint)

namespace Goal

/-- The constraint of the goal. -/
def resolve : Goal → Except BuildError Constraint
  | chain c => c.resolve
  | constraint c => .ok c

/-- What building and resolving the goal logs. -/
def events : Goal → List Event
  | chain c => c.events
  | constraint _ => []

end Goal

/-- The value under test. One that is computed on demand may look at the counter and ask the host. -/
inductive Actual (σ : Type) where
  | value (v : Value)
  | onDemand (compute : Counter → Trial σ Value)

/-- The value under test, when the counter already counts its assertion. -/
def Actual.compute {σ : Type} (counter : Counter) : Actual σ → Trial σ Value
  | value v => pure v
  | onDemand compute => do
    .ask .compute fun s => ((), s)
    compute counter

/-! ## Assertions -/

/-- How an assertion ended, with what it left and what it did. -/
structure Report (σ α : Type) where
  result : Except AssertError α
  counter : Counter
  state : σ
  calls : List Call
  events : List Event

/-- The end of a counted assertion, and what it logs. The message is filled in only for a rejection. -/
def conclude (settings : Settings) (message : Message) (count : UInt64) (c : Constraint) :
    Verdict → Except AssertError Unit × List Event
  | .pass => (.ok (), [.passed count])
  | .fail f =>
    match message.render with
    | .error e => (.error (.format e), [])
    | .ok text =>
      let report := f.report settings.limits text
      (.error (.failed report), [.failed count c.display report])

/-- Asserts that a value reaches a goal. A goal that does not resolve ends the assertion before it is
counted, and before its value is computed. -/
def assertThat {σ : Type} (host : Host σ) (settings : Settings) (actual : Actual σ) (goal : Goal)
    (message : Message) (counter : Counter) (state : σ) : Report σ Unit :=
  match goal.resolve with
  | .error e => ⟨.error (.malformed e), counter, state, [], goal.events⟩
  | .ok c =>
    let counted := counter.increment
    let prepared := settings.prepare c
    let trial : Trial σ Verdict := do prepared.evaluate host (← actual.compute counted)
    let outcome := trial state
    let (result, logged) := conclude settings message counted.count prepared outcome.result
    ⟨result, counted, outcome.state, outcome.calls, goal.events ++ logged⟩

/-! ## Signals -/

/-- An end of a test without an assertion. -/
inductive Signal where
  | pass
  | fail
  | ignore
  | inconclusive
deriving DecidableEq

namespace Signal

/-- The error of a signal. -/
def error : Signal → String → AssertError
  | pass, text => .passedEarly text
  | fail, text => .failed text
  | ignore, text => .ignored text
  | inconclusive, text => .inconclusive text

/-- Raises a signal: the error, and what is logged. -/
def raise (signal : Signal) (message : Message) : AssertError × List Event :=
  match message.render with
  | .error e => (.format e, [])
  | .ok text => (signal.error text, [.signalled (signal.error text).display])

end Signal

end Expectation
