import Expectation.Chain.State

/-!
# Malformed expressions

* `BuildError`: why an expression yields no constraint;
* `BuildError.message`: the reason in words.
-/

namespace Expectation

/-- Why an expression yields no constraint. -/
inductive BuildError where
  | emptyExpression
  /-- The expression ends where an operand is expected. -/
  | incomplete
  /-- A call was made where the grammar does not permit it, after so many tokens. -/
  | illegalStep (step : Chain.Step) (state : Chain.State) (position : Nat)
  /-- An operator found too few operands. -/
  | operandUnderflow (operator : String)
  /-- More or fewer operands than one were left at the end. -/
  | unreduced (operands : Nat)
deriving DecidableEq

/-- The reason in words. -/
def BuildError.message : BuildError → String
  | emptyExpression => "expression has no tokens"
  | incomplete => "a partial expression may not be resolved"
  | illegalStep step state position =>
    "`" ++ step.display ++ "` is not allowed " ++ state.display ++ " (token " ++
      toString position ++ ")"
  | operandUnderflow operator => "operator `" ++ operator ++ "` found no operand to reduce"
  | unreduced operands => "reduction left " ++ toString operands ++ " constraints instead of one"

end Expectation
