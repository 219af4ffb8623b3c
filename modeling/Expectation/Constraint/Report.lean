import Expectation.Constraint.Describe
import Expectation.Constraint.Verdict

/-!
# Failure reports

The text of a rejection: a line for the expectation in its contexts, and a line for what was seen.

* `noteLine`: the line of the user's own message;
* `Failure.expectedText`, `Failure.seenText`: the two sides;
* `Failure.report`: the whole text.
-/

namespace Expectation

/-- What stands before the expectation. -/
def expectedLabel : String := "  Expected: "

/-- What stands before the value that was seen. -/
def seenLabel : String := "  But was:  "

/-- The line of a message; an empty message has none. -/
def noteLine (message : String) : String :=
  if message.isEmpty then "" else "  " ++ message ++ "\n"

/-- A number of items in words. -/
def countPhrase (count : Nat) : String :=
  " (" ++ toString count ++ (if count = 1 then " element)" else " elements)")

/-- What was seen, with values shown within the limits. -/
def Observed.describe (limits : RenderLimits) : Observed → String
  | value v => v.render limits
  | counted v count => v.render limits ++ countPhrase count
  | noFault => "no fault"

namespace Failure

variable (limits : RenderLimits) (f : Failure)

/-- The expectation of the blamed constraint, after its contexts from the outermost in. -/
def expectedText : String :=
  String.join (f.frames.reverse.map Constraint.contextPhrase) ++ f.blamed.describe limits

/-- What the blamed constraint saw. -/
def seenText : String := f.observed.describe limits

/-- The lines of the two sides. -/
def lines : String :=
  expectedLabel ++ f.expectedText limits ++ "\n" ++ seenLabel ++ f.seenText limits ++ "\n"

/-- The whole text of a rejection, under the user's message. -/
def report (message : String) : String := noteLine message ++ f.lines limits

end Failure

end Expectation
