import Expectation.Configuration.Basic
import Expectation.Console.Output
import Expectation.Fixture.World
import Expectation.Proofs.Token.Assembly
import Expectation.Proofs.Token.Descent
import Expectation.Proofs.Token.Flatten
import Expectation.Proofs.Token.Phrases
import Expectation.Proofs.Chain.FirstIllegal
import Expectation.Proofs.Chain.Identity
import Expectation.Proofs.Chain.LastToken
import Expectation.Proofs.Constraint.Expected
import Expectation.Proofs.Constraint.Fallback
import Expectation.Proofs.Constraint.IgnoreCase
import Expectation.Proofs.Constraint.Loosening
import Expectation.Proofs.Constraint.Negation
import Expectation.Proofs.Constraint.Quantifiers
import Expectation.Proofs.Constraint.Seen
import Expectation.Proofs.Constraint.Sequence
import Expectation.Proofs.Assertion.Calls
import Expectation.Proofs.Assertion.Counting
import Expectation.Proofs.Assertion.Equality
import Expectation.Proofs.Assertion.Fallback
import Expectation.Proofs.Assertion.Independence
import Expectation.Proofs.Assertion.Opposites
import Expectation.Proofs.Assertion.Throws
import Expectation.Proofs.Message.Encoding
import Expectation.Proofs.Value.Tolerance
import Expectation.Proofs.Value.Saturation
import Expectation.Proofs.Configuration.Loading
import Expectation.Proofs.Console.Failure
import Expectation.Proofs.Console.Signal
