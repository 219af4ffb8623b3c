import Expectation.Message.Template
import Expectation.Token.Error

/-!
# Assertion errors

How an assertion or a signal ends a test.

* `AssertError`: the ways, of which `failed` alone means that a value was rejected;
* `AssertError.message`, `AssertError.display`: what it carries, and the same with its kind.
-/

namespace Expectation

/-- How a test is ended. -/
inductive AssertError where
  | failed (text : String)
  | passedEarly (text : String)
  | ignored (text : String)
  | inconclusive (text : String)
  | malformed (error : BuildError)
  | format (error : FormatError)
deriving DecidableEq

namespace AssertError

/-- What the error says. -/
def message : AssertError → String
  | failed text | passedEarly text | ignored text | inconclusive text => text
  | malformed error => error.message
  | format error => error.message

/-- What the error says, under its kind. -/
def display : AssertError → String
  | failed text => text
  | passedEarly text => "Test passed: " ++ text
  | ignored text => "Test ignored: " ++ text
  | inconclusive text => "Test inconclusive: " ++ text
  | malformed error => "Malformed constraint expression: " ++ error.message
  | format error => "Message format error: " ++ error.message

/-- A value was rejected. -/
def isFailure : AssertError → Bool
  | failed _ => true
  | _ => false

end AssertError

end Expectation
