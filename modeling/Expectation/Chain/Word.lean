import Expectation.Chain.Basic

/-!
# The vocabulary of chains

* `Chain.Word`: the calls that build a chain, with the synonyms among them;
* `Chain.extend`: what a call does to a chain;
* `Chain.ofWords`: the chain of a list of calls.
-/

namespace Expectation.Chain

/-- A call on a chain. -/
inductive Word where
  | isNull
  | isTrue
  | isFalse
  | nan
  | empty
  | equalTo (expected : Value)
  | sameAs (expected : Value)
  | compared (comparison : Comparison) (expected : Value)
  | instanceOf (typeName : String)
  | typeOf (typeName : String)
  | assignableFrom (typeName : String)
  /-- A list with an item equal to the value. -/
  | member (expected : Value)
  | containing (text : String)
  | startingWith (text : String)
  | endingWith (text : String)
  /-- Code that ends without a fault. -/
  | nothing
  /-- The absolute difference that the equality before it allows. -/
  | within (amount : Binary64)
  /-- Reads the difference before it in percent of the expected value. -/
  | percent
  | ignoreCase
  | not
  | quantified (q : Quantifier)
  | and
  | or
  /-- Joins what follows: `and` after a complete operand, nothing after an operator. -/
  | joined
  | property (name : String)
  | attribute (name : String)
  | throws

/-! ## Synonyms -/

namespace Word

/-- At least the value. -/
def atLeast (expected : Value) : Word := compared .greaterOrEqual expected

/-- At most the value. -/
def atMost (expected : Value) : Word := compared .lessOrEqual expected

/-- The number of characters or items. -/
def length : Word := property "length"

/-- The number of items or characters. -/
def count : Word := property "count"

end Word

/-- A fault of a kind. -/
def faultOfKind (kind : String) : List Word := [.throws, .instanceOf kind]

/-! ## Modifiers -/

/-- Gives an equality an absolute tolerance. -/
def setTolerance (amount : Binary64) : Constraint → Constraint
  | .equal v _ i => .equal v (some ⟨amount, .linear⟩) i
  | c => c

/-- Reads the tolerance of an equality in percent. -/
def setPercent : Constraint → Constraint
  | .equal v (some t) i => .equal v (some { t with mode := .percent }) i
  | c => c

/-- Lets an equality or a text constraint ignore case. -/
def setIgnoreCase : Constraint → Constraint
  | .equal v t _ => .equal v t true
  | .text s p _ => .text s p true
  | c => c

/-! ## Calls -/

section Extend

variable (chain : Chain)

/-- Appends an operand. -/
def operand (c : Constraint) (next : State) : Chain := chain.append .operand (.operand c) next

/-- Appends a unary operator. -/
def unary (u : Unary) : Chain := chain.append .unary (.operator (.unary u)) .awaitingOperand

/-- Appends a connective. -/
def connective (k : Connective) : Chain :=
  chain.append .connective (.operator (.connective k)) .awaitingOperand

/-- Appends a selector. -/
def selector (s : Selector) : Chain :=
  chain.append .selector (.operator (.selector s)) .afterSelector

/-- Makes a call. -/
def extend : Word → Chain
  | .isNull => chain.operand .isNull .complete
  | .isTrue => chain.operand .isTrue .complete
  | .isFalse => chain.operand .isFalse .complete
  | .nan => chain.operand .isNaN .complete
  | .empty => chain.operand .isEmpty .complete
  | .equalTo v => chain.operand (.equal v none false) .equality
  | .sameAs v => chain.operand (.sameAs v) .complete
  | .compared c v => chain.operand (.ordering c v) .complete
  | .instanceOf s => chain.operand (.instanceOf s) .complete
  | .typeOf s => chain.operand (.exactType s) .complete
  | .assignableFrom s => chain.operand (.assignableFrom s) .complete
  | .member v => chain.operand (.contains v) .complete
  | .containing s => chain.operand (.text s .anywhere false) .text
  | .startingWith s => chain.operand (.text s .start false) .text
  | .endingWith s => chain.operand (.text s .finish false) .text
  | .nothing => chain.operand .throwsNothing .complete
  | .within amount => chain.modifyLast .within .tolerance (setTolerance amount)
  | .percent => chain.modifyLast .percent .complete setPercent
  | .ignoreCase => chain.modifyLast .ignoreCase .complete setIgnoreCase
  | .not => chain.unary .not
  | .quantified q => chain.unary (.quantified q)
  | .and => chain.connective .and
  | .or => chain.connective .or
  | .joined => if chain.state.closesOperand then chain.connective .and else chain
  | .property name => chain.selector (.property name)
  | .attribute name => chain.selector (.attribute name)
  | .throws => chain.selector .throws

end Extend

/-- Makes calls in order. -/
def extendAll (chain : Chain) (words : List Word) : Chain := words.foldl extend chain

/-- The chain of some calls. -/
def ofWords (words : List Word) : Chain := empty.extendAll words

end Expectation.Chain
