import Expectation.Constraint.Basic

/-!
# Verdicts

The outcome of testing a value, with the constraint to blame when the value is rejected.

* `Observed`: what the blamed constraint saw;
* `Failure`: the blamed constraint, the contexts it was reached through and its place in the tree;
* `Verdict`, `Verdict.along`, `Verdict.within`: the outcome, on its way up to the root.
-/

namespace Expectation

/-- What a rejecting constraint saw. -/
inductive Observed where
  | value (v : Value)
  /-- A list that should have been empty, with the number of its items. -/
  | counted (v : Value) (count : Nat)
  /-- Code that ended without a fault. -/
  | noFault

/-- A turn on the way from a constraint down to one inside it. -/
inductive Turn where
  | left
  | right
  | inner
deriving DecidableEq

/-- A rejection. The trail leads from the root to the blamed constraint, and the frames are the
contexts on it, the innermost first. -/
structure Failure where
  trail : List Turn
  frames : List Constraint
  blamed : Constraint
  observed : Observed

/-- The outcome of testing a value. -/
inductive Verdict where
  | pass
  | fail (f : Failure)

namespace Verdict

/-- The value was accepted. -/
def isPass : Verdict → Bool
  | pass => true
  | fail _ => false

/-- The rejection, if there was one. -/
def failure? : Verdict → Option Failure
  | pass => none
  | fail f => some f

/-- The verdict of a branch of a combination. -/
def along (turn : Turn) : Verdict → Verdict
  | pass => pass
  | fail f => fail ⟨turn :: f.trail, f.frames, f.blamed, f.observed⟩

/-- The verdict of the inner constraint of a context. -/
def within (frame : Constraint) : Verdict → Verdict
  | pass => pass
  | fail f => fail ⟨.inner :: f.trail, f.frames ++ [frame], f.blamed, f.observed⟩

@[simp] theorem isPass_along (turn : Turn) (v : Verdict) : (v.along turn).isPass = v.isPass := by
  cases v <;> rfl

@[simp] theorem isPass_within (frame : Constraint) (v : Verdict) :
    (v.within frame).isPass = v.isPass := by
  cases v <;> rfl

end Verdict

end Expectation
