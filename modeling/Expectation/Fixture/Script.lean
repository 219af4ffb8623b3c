import Expectation.Value.Run

/-!
# Scripted code

Sample code that does what a script says, run by run.

* `LedgerError`, `withdraw`: a ledger that may refuse;
* `Action`: what one run does, with how it ends;
* `Script`: the actions of successive runs.
-/

namespace Expectation.Fixture

/-- Why the ledger refuses. -/
inductive LedgerError where
  | insufficientFunds (balance requested : Int64)
  | frozen (account : String)

/-- The refusal in words. -/
def LedgerError.message : LedgerError → String
  | insufficientFunds balance requested =>
    "insufficient funds: balance " ++ toString balance.toInt ++ ", requested " ++
      toString requested.toInt
  | frozen account => "account " ++ account ++ " is frozen"

/-- Withdraws from a balance, which must not go below zero. -/
def withdraw (balance requested : Int64) : Except LedgerError Int64 :=
  if balance < requested then .error (.insufficientFunds balance requested)
  else .ok (balance - requested)

/-- What one run of code does. -/
inductive Action where
  | complete
  | fail (kind message : String)
  /-- Breaks off with a text, or with something that is no text. -/
  | panic (message : Option String)
  | refuse (error : LedgerError)
  | withdraw (balance requested : Int64)

/-- How the run ends, with new faults at the address. -/
def Action.ending (address : Nat) : Action → Ending
  | complete => .completed
  | fail kind message => .returned (.new address kind message)
  | panic message => .panicked message
  | refuse error => .returned (.new address "LedgerError" error.message)
  | withdraw balance requested =>
    match Fixture.withdraw balance requested with
    | .ok _ => .completed
    | .error error => .returned (.new address "LedgerError" error.message)

/-- The actions of successive runs, the last one repeating, and the number of runs so far. Only code
with a label shows in traces. -/
structure Script where
  label : Option String
  actions : List Action
  runs : Nat

namespace Script

/-- What the next run does. -/
def current (s : Script) : Action :=
  (s.actions[s.runs]?).getD (s.actions.getLastD .complete)

/-- The script after a run. -/
def advance (s : Script) : Script := { s with runs := s.runs + 1 }

end Script

end Expectation.Fixture
