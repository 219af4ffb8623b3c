import Expectation.Token.Resolution

/-!
# Chains

A chain collects the tokens of an expression call by call. The first call that is illegal in its
place is recorded, and from then on nothing changes.

* `Chain`, `Chain.tokens`: the collected tokens, the place reached and the first error;
* `Chain.append`, `Chain.modifyLast`: the two ways in which a call changes a chain;
* `Chain.resolution`, `Chain.resolve`: the constraint of a chain.
-/

namespace Expectation

/-- An expression under construction. The tokens are kept with the last one first. -/
structure Chain where
  reversed : List Token
  state : Chain.State
  error : Option BuildError

namespace Chain

/-- The chain before the first call. -/
def empty : Chain := ⟨[], .start, none⟩

variable (chain : Chain)

/-- The tokens of the chain in order. -/
def tokens : List Token := chain.reversed.reverse

/-- Makes a call of some kind: where it is legal the chain changes by `change`, the first illegal call
is recorded, and after that nothing happens. -/
def attempt (step : Step) (change : Chain → Chain) : Chain :=
  if chain.error.isSome then chain
  else if chain.state.permits step then change chain
  else
    { chain with error := some (.illegalStep step chain.state chain.reversed.length) }

theorem attempt_of_error (step : Step) (change : Chain → Chain) (h : chain.error.isSome) :
    chain.attempt step change = chain := by
  simp [attempt, h]

/-- Appends a token by a call of the given kind and moves to a place. -/
def append (step : Step) (token : Token) (next : State) : Chain :=
  chain.attempt step fun c => { c with reversed := token :: c.reversed, state := next }

/-- Changes the constraint of the last token, if that is an operand. -/
def editLast (edit : Constraint → Constraint) : List Token → List Token
  | .operand c :: rest => .operand (edit c) :: rest
  | tokens => tokens

/-- Changes the last operand by a call of the given kind and moves to a place. -/
def modifyLast (step : Step) (next : State) (edit : Constraint → Constraint) : Chain :=
  chain.attempt step fun c => { c with reversed := editLast edit c.reversed, state := next }

/-- What became of the tokens, unless the chain has an error or ends too early. -/
def resolution : Resolution :=
  match chain.error with
  | some error => ⟨.error error, ⟨[], []⟩⟩
  | none =>
    if chain.state = .start then ⟨.error .emptyExpression, ⟨[], []⟩⟩
    else if chain.state.isResolvable then Resolution.of chain.tokens
    else ⟨.error .incomplete, ⟨[], []⟩⟩

/-- The constraint that a chain stands for. -/
def resolve : Except BuildError Constraint := chain.resolution.result

end Chain

end Expectation
