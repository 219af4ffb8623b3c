import Expectation.Constraint.Basic

/-!
# Tokens

An expression is a stream of tokens: operands, which are constraints, and operators. A unary operator
takes the operand on its right, a connective the operands on both sides. A selector takes the operand
on its right as well, but where no operand follows it stands alone and asks for mere existence.

* `Unary`, `Connective`, `Selector`, `Operator`, `Token`;
* `Follower`, `Operator.standsAlone`: what follows an operator, and the selectors that stand alone;
* `Precedence`, `Operator.precedence`: how tightly an operator binds on either side.
-/

namespace Expectation

/-- An operator on the operand to its right. -/
inductive Unary where
  | not
  | quantified (q : Quantifier)
deriving DecidableEq

/-- An operator between two operands. -/
inductive Connective where
  | and
  | or
deriving DecidableEq

/-- An operator that selects a part of the value for the operand to its right, if there is one. -/
inductive Selector where
  | property (name : String)
  | attribute (name : String)
  | throws
deriving DecidableEq

/-- An operator of an expression. -/
inductive Operator where
  | unary (u : Unary)
  | connective (k : Connective)
  | selector (s : Selector)
deriving DecidableEq

/-- A token of an expression. -/
inductive Token where
  | operand (c : Constraint)
  | operator (op : Operator)

/-! ## What follows an operator -/

/-- The kind of the token after an operator. -/
inductive Follower where
  | nothing
  | operand
  | unary
  | connective
  | selector
deriving DecidableEq

/-- The kind of an operator, as its neighbour on the left sees it. -/
def Operator.asFollower : Operator → Follower
  | unary _ => .unary
  | connective _ => .connective
  | selector _ => .selector

/-- The kind of the first of the tokens that follow. -/
def Follower.of : List Token → Follower
  | [] => .nothing
  | .operand _ :: _ => .operand
  | .operator op :: _ => op.asFollower

/-- No operand begins here. -/
def Follower.endsOperand : Follower → Bool
  | nothing | connective => true
  | operand | unary | selector => false

/-- The operator takes no operand, given what follows it. -/
def Operator.standsAlone : Operator → Follower → Bool
  | selector _, f => f.endsOperand
  | _, _ => false

/-! ## Precedence -/

/-- How tightly an operator binds to its left and to its right. -/
structure Precedence where
  left : Nat
  right : Nat
deriving DecidableEq

/-- The left precedence of an operator that takes nothing from its left, above every right one. -/
def Precedence.openLeft : Nat := 255

/-- The precedence of a unary operator. Quantifiers take in all the connectives after them. -/
def Unary.precedence : Unary → Precedence
  | not => ⟨Precedence.openLeft, 200⟩
  | quantified _ => ⟨Precedence.openLeft, 10⟩

/-- The precedence of a connective. -/
def Connective.precedence : Connective → Precedence
  | and => ⟨40, 40⟩
  | or => ⟨30, 30⟩

/-- The precedence of a selector. A fault is selected for everything that follows. -/
def Selector.precedence : Selector → Precedence
  | .property _ | .attribute _ => ⟨Precedence.openLeft, 200⟩
  | throws => ⟨Precedence.openLeft, 5⟩

/-- The precedence of an operator. -/
def Operator.precedence : Operator → Precedence
  | unary u => u.precedence
  | connective k => k.precedence
  | selector s => s.precedence

/-! ## Names -/

/-- The name of a unary operator. -/
def Unary.name : Unary → String
  | not => "not"
  | quantified .all => "all"
  | quantified .some => "some"
  | quantified .none => "none"

/-- The name of a connective. -/
def Connective.name : Connective → String
  | and => "and"
  | or => "or"

/-- The name of a selector, without what it selects. -/
def Selector.name : Selector → String
  | property _ => "property"
  | .attribute _ => "attribute"
  | throws => "throws"

/-- The name of an operator. -/
def Operator.name : Operator → String
  | unary u => u.name
  | connective k => k.name
  | selector s => s.name

/-- The operator as logs show it, with the part that it selects. -/
def Operator.display : Operator → String
  | selector (.property name) => "property(" ++ name ++ ")"
  | selector (.attribute name) => "attribute(" ++ name ++ ")"
  | op => op.name

/-! ## Application -/

/-- The constraint that a unary operator makes of its operand. -/
def Unary.apply : Unary → Constraint → Constraint
  | not, c => .not c
  | quantified q, c => .items q c

/-- The constraint that a connective makes of its operands. -/
def Connective.apply : Connective → Constraint → Constraint → Constraint
  | and, a, b => .and a b
  | or, a, b => .or a b

/-- The constraint that a selector makes of its operand. -/
def Selector.apply : Selector → Constraint → Constraint
  | property name, c => .propertyIs name c
  | .attribute name, c => .attributeIs name c
  | throws, c => .throwsMatching c

/-- The constraint that a selector is on its own. -/
def Selector.alone : Selector → Constraint
  | property name => .hasProperty name
  | .attribute name => .hasAttribute name
  | throws => .throws

end Expectation
