import Expectation.Token.Basic
import Expectation.Token.Error

/-!
# Resolution

A stream of tokens becomes one constraint by precedence. Operands go on a stack. An operator first has
every waiting operator reduced that binds at least as tightly to its right as the newcomer does to its
left, and then waits itself, except that a selector which stands alone is reduced at once. At the end
all waiting operators are reduced, and one operand must be left.

* `Bench`, `Reducing`: the operands and the record of reductions, and computations on them;
* `push`, `pop`, `Operator.reduce`: the operations on operands;
* `unwind`, `feed`, `single`: the three parts of resolution;
* `Resolution`, `resolve`: the outcome for a stream.
-/

namespace Expectation

/-- A reduction that was attempted, with the number of operands before it. -/
structure Reduction where
  operator : Operator
  operands : Nat
deriving DecidableEq

/-- The operands that wait for an operator, the last one first, and the reductions so far, the last
one first. -/
structure Bench where
  operands : List Constraint
  reductions : List Reduction

/-- A computation on the bench. When it fails, the bench stays as the failure left it. -/
abbrev Reducing := ExceptT BuildError (StateM Bench)

/-! ## Operands -/

/-- Puts an operand on the stack. -/
def push (c : Constraint) : Reducing Unit :=
  modify fun b => { b with operands := c :: b.operands }

/-- Takes the last operand off the stack, on behalf of an operator. -/
def pop (operator : String) : Reducing Constraint := do
  match (← get).operands with
  | [] => throw (.operandUnderflow operator)
  | c :: rest =>
    modify fun b => { b with operands := rest }
    pure c

/-- Replaces the operands of an operator by the constraint it makes of them, given what follows it. -/
def Operator.reduce (op : Operator) (follower : Follower) : Reducing Unit := do
  match op with
  | unary u => push (u.apply (← pop op.name))
  | connective k =>
    let right ← pop op.name
    let left ← pop op.name
    push (k.apply left right)
  | selector s =>
    if follower.endsOperand then push s.alone
    else push (s.apply (← pop op.name))

/-! ## Waiting operators -/

/-- An operator that waits for its operands, and what follows it. -/
structure Pending where
  operator : Operator
  follower : Follower

/-- Reduces a waiting operator, and records it before it is known whether that succeeds. -/
def Pending.settle (p : Pending) : Reducing Unit := do
  modify fun b => { b with reductions := ⟨p.operator, b.operands.length⟩ :: b.reductions }
  p.operator.reduce p.follower

/-- Reduces waiting operators, the last one first, as long as they bind. -/
def unwind (binds : Operator → Bool) : List Pending → Reducing (List Pending)
  | [] => pure []
  | p :: rest =>
    if binds p.operator then do
      p.settle
      unwind binds rest
    else pure (p :: rest)

/-- A waiting operator binds before a newcomer. -/
def bindsBefore (newcomer waiting : Operator) : Bool :=
  decide (newcomer.precedence.left ≤ waiting.precedence.right)

/-- Takes in tokens while operators wait, and reduces them all at the end. -/
def feed : List Token → List Pending → Reducing Unit
  | [], waiting => do
    let _ ← unwind (fun _ => true) waiting
  | .operand c :: rest, waiting => do
    push c
    feed rest waiting
  | .operator op :: rest, waiting => do
    let waiting ← unwind (bindsBefore op) waiting
    let newcomer : Pending := ⟨op, .of rest⟩
    if op.standsAlone newcomer.follower then do
      newcomer.settle
      feed rest waiting
    else feed rest (newcomer :: waiting)

/-- The one operand that is left. -/
def single : Reducing Constraint := do
  match (← get).operands with
  | [c] => pure c
  | operands => throw (.unreduced operands.length)

/-! ## Streams -/

/-- What became of a stream: the constraint or the reason why there is none, and the bench as it was
left. -/
structure Resolution where
  result : Except BuildError Constraint
  bench : Bench

/-- Resolves a stream of tokens. -/
def Resolution.of (tokens : List Token) : Resolution :=
  if tokens.isEmpty then ⟨.error .emptyExpression, ⟨[], []⟩⟩
  else
    let (result, bench) := (ExceptT.run do feed tokens []; single).run ⟨[], []⟩
    ⟨result, bench⟩

/-- The constraint that a stream of tokens stands for. -/
def resolve (tokens : List Token) : Except BuildError Constraint := (Resolution.of tokens).result

end Expectation
