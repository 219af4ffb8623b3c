import Expectation.Value.Basic

/-!
# Runs of code

Code that is run completes, hands over a fault, or breaks off. A new fault stands for code that broke off.

* `Fault.new`, `Fault.ofPanic`: a fault with texts of its own;
* `Ending`: how a run ends;
* `Run`, `Run.fault?`, `Run.answer`: a run, the fault that it raises, and what its host answers.
-/

namespace Expectation

/-- A new fault. It and its texts take three addresses from the given one on. -/
def Fault.new (address : Nat) (kind message : String) : Fault :=
  ⟨address + 2, ⟨address, kind⟩, ⟨address + 1, message⟩⟩

/-- The fault that stands for code that broke off with a text, or with something that is no text. -/
def Fault.ofPanic (address : Nat) (payload : Option String) : Fault :=
  .new address "panic" (payload.getD "panic with a non-string payload")

/-- How a run of code ends. -/
inductive Ending where
  | completed
  | returned (fault : Fault)
  | panicked (payload : Option String)

/-- A run of code: how it ended, an address from which on none is taken, and the state it left. -/
structure Run (σ : Type) where
  ending : Ending
  address : Nat
  state : σ

namespace Run

variable {σ : Type} (run : Run σ)

/-- The fault that the run raises. -/
def fault? : Option Fault :=
  match run.ending with
  | .completed => none
  | .returned fault => some fault
  | .panicked payload => some (.ofPanic run.address payload)

/-- What a host answers that runs the code. -/
def answer : Option Fault × σ := (run.fault?, run.state)

end Run

end Expectation
