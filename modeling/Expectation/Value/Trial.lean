import Expectation.Value.Basic

/-!
# Trials

Testing a value may ask the host that owns its objects, and may run code. A trial is such a test: it
changes the state of the host and leaves a record of what was asked, in order.

* `Call`: one question to the host, or one run of code;
* `Outcome`, `Trial`: what a trial leaves, and trials as a monad;
* `Trial.ask`: the trial of a single call.
-/

namespace Expectation

/-- What a trial asks of the host. -/
inductive Call where
  | propertyOf (o : HostObject) (name : String)
  | attributeOf (o : HostObject) (name : String)
  | instanceOf (o : HostObject) (typeName : String)
  | assignableFrom (o : HostObject) (typeName : String)
  | run (c : Code)
  /-- A value under test was computed on demand. -/
  | compute
deriving DecidableEq

/-- The result of a trial, the calls it made and the state it left. -/
structure Outcome (σ α : Type) where
  result : α
  calls : List Call
  state : σ

/-- A test over a host with states `σ`. -/
def Trial (σ α : Type) := σ → Outcome σ α

namespace Trial

variable {σ α β : Type}

/-- The trial that asks nothing. -/
def done (a : α) : Trial σ α := fun s => ⟨a, [], s⟩

/-- A trial and one that depends on its result. -/
def andThen (t : Trial σ α) (f : α → Trial σ β) : Trial σ β := fun s =>
  let first := t s
  let second := f first.result first.state
  ⟨second.result, first.calls ++ second.calls, second.state⟩

instance : Monad (Trial σ) where
  pure := done
  bind := andThen

/-- The trial that makes one call and answers as the host does. -/
def ask (call : Call) (answer : σ → α × σ) : Trial σ α := fun s =>
  let (a, s) := answer s
  ⟨a, [call], s⟩

theorem pure_apply (a : α) (s : σ) : (pure a : Trial σ α) s = ⟨a, [], s⟩ := rfl

theorem bind_apply (t : Trial σ α) (f : α → Trial σ β) (s : σ) :
    (t >>= f) s = ⟨(f (t s).result (t s).state).result,
      (t s).calls ++ (f (t s).result (t s).state).calls, (f (t s).result (t s).state).state⟩ := rfl

end Trial

end Expectation
