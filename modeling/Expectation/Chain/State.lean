/-!
# Places in a chain

A chain of calls is legal or not by its place in a small grammar: the state that the last call left
decides which kinds of steps may come next.

* `Chain.State`, `Chain.Step`: the places and the kinds of steps;
* `Chain.State.permits`: the table of legal steps;
* `Chain.State.closesOperand`: the places right after a complete operand.
-/

namespace Expectation.Chain

/-- A place in the grammar of chains. -/
inductive State where
  /-- Before the first token. -/
  | start
  /-- After a unary operator or a connective. -/
  | awaitingOperand
  /-- After a selector, which may stand alone. -/
  | afterSelector
  /-- After an operand that takes no modifier. -/
  | complete
  /-- After an equality. -/
  | equality
  /-- After a tolerance. -/
  | tolerance
  /-- After a text constraint. -/
  | text
deriving DecidableEq

/-- A kind of call. -/
inductive Step where
  | operand
  | unary
  | connective
  | selector
  | within
  | percent
  | ignoreCase
  | resolve
deriving DecidableEq

/-- Every kind of call. -/
def Step.all : List Step :=
  [.operand, .unary, .connective, .selector, .within, .percent, .ignoreCase, .resolve]

namespace State

/-- The step is legal in this place. -/
def permits : State → Step → Bool
  | .start, .operand | .start, .unary | .start, .selector => true
  | .awaitingOperand, .operand | .awaitingOperand, .unary | .awaitingOperand, .selector => true
  | .afterSelector, .operand | .afterSelector, .unary | .afterSelector, .selector => true
  | .afterSelector, .connective | .afterSelector, .resolve => true
  | .complete, .connective | .complete, .resolve => true
  | .equality, .connective | .equality, .resolve => true
  | .tolerance, .connective | .tolerance, .resolve => true
  | .text, .connective | .text, .resolve => true
  | .equality, .within | .equality, .ignoreCase => true
  | .tolerance, .percent => true
  | .text, .ignoreCase => true
  | _, _ => false

/-- A chain in this place can be resolved as it stands. -/
def isResolvable (s : State) : Bool := s.permits .resolve

/-- The last token completed an operand. -/
def closesOperand : State → Bool
  | complete | equality | tolerance | text => true
  | start | awaitingOperand | afterSelector => false

/-- The place in words. -/
def display : State → String
  | start => "at the start of an expression"
  | awaitingOperand => "where an operand is expected"
  | afterSelector => "after a self-resolving operator"
  | complete => "after a complete constraint"
  | equality => "after an equality constraint"
  | tolerance => "after a tolerance"
  | text => "after a string constraint"

end State

/-- The kind of call in words. -/
def Step.display : Step → String
  | operand => "constraint"
  | unary => "prefix operator"
  | connective => "and/or"
  | selector => "self-resolving operator"
  | within => "within"
  | percent => "percent"
  | ignoreCase => "ignore_case"
  | resolve => "resolve"

end Expectation.Chain
