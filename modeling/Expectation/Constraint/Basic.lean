import Expectation.Value.Matching

/-!
# Constraints

A constraint is a tree. Its leaves test a value; `not` and `items` test through an inner constraint;
`and` and `or` combine two; `propertyIs`, `attributeIs` and `throwsMatching` apply their inner
constraint to something derived from the value.

* `Constraint`, with `TextPosition` and `Quantifier`;
* `Constraint.same`: the `==` of constraints;
* `Constraint.nodeCount`: the size of the tree;
* `Constraint.withFallback`: a default tolerance for the equalities that have none.
-/

namespace Expectation

/-- Where a text constraint looks for its text. -/
inductive TextPosition where
  | anywhere
  | start
  | finish
deriving DecidableEq

/-- How many items of a list have to satisfy a constraint. -/
inductive Quantifier where
  | all
  | some
  | none
deriving DecidableEq

/-- An expectation on a value. -/
inductive Constraint where
  | equal (expected : Value) (tolerance : Option Tolerance) (ignoreCase : Bool)
  | ordering (comparison : Comparison) (expected : Value)
  | sameAs (expected : Value)
  | isNull
  | isTrue
  | isFalse
  | isNaN
  /-- An empty text or list. -/
  | isEmpty
  /-- A list with an item equal to the value. -/
  | contains (expected : Value)
  | text (expected : String) (position : TextPosition) (ignoreCase : Bool)
  | instanceOf (typeName : String)
  | exactType (typeName : String)
  | assignableFrom (typeName : String)
  | hasProperty (name : String)
  | hasAttribute (name : String)
  /-- Code that raises a fault. -/
  | throws
  | throwsNothing
  | not (inner : Constraint)
  | items (quantifier : Quantifier) (inner : Constraint)
  | and (left right : Constraint)
  | or (left right : Constraint)
  | propertyIs (name : String) (inner : Constraint)
  | attributeIs (name : String) (inner : Constraint)
  /-- Code that raises a fault which satisfies the inner constraint. -/
  | throwsMatching (inner : Constraint)

namespace Constraint

/-- The trees are the same: the same nodes with structurally identical values and the same
tolerances. -/
def same : Constraint → Constraint → Bool
  | equal v s i, equal w t j => v == w && s == t && i == j
  | ordering c v, ordering d w => decide (c = d) && v == w
  | sameAs v, sameAs w => v == w
  | isNull, isNull => true
  | isTrue, isTrue => true
  | isFalse, isFalse => true
  | isNaN, isNaN => true
  | isEmpty, isEmpty => true
  | contains v, contains w => v == w
  | text s p i, text t q j => s == t && decide (p = q) && i == j
  | instanceOf s, instanceOf t => s == t
  | exactType s, exactType t => s == t
  | assignableFrom s, assignableFrom t => s == t
  | hasProperty s, hasProperty t => s == t
  | hasAttribute s, hasAttribute t => s == t
  | throws, throws => true
  | throwsNothing, throwsNothing => true
  | not a, not b => same a b
  | items q a, items r b => decide (q = r) && same a b
  | and a b, and c d => same a c && same b d
  | or a b, or c d => same a c && same b d
  | propertyIs s a, propertyIs t b => s == t && same a b
  | attributeIs s a, attributeIs t b => s == t && same a b
  | throwsMatching a, throwsMatching b => same a b
  | _, _ => false

instance : BEq Constraint := ⟨same⟩

/-- The number of nodes of the tree. -/
def nodeCount : Constraint → Nat
  | not c | items _ c | propertyIs _ c | attributeIs _ c | throwsMatching c => 1 + nodeCount c
  | and a b | or a b => 1 + nodeCount a + nodeCount b
  | _ => 1

/-- Gives every equality without a tolerance the amount as its fallback. -/
def withFallback (amount : Binary64) : Constraint → Constraint
  | equal v t i => equal v (some (t.getD ⟨amount, .fallback⟩)) i
  | not c => not (withFallback amount c)
  | items q c => items q (withFallback amount c)
  | and a b => and (withFallback amount a) (withFallback amount b)
  | or a b => or (withFallback amount a) (withFallback amount b)
  | propertyIs s c => propertyIs s (withFallback amount c)
  | attributeIs s c => attributeIs s (withFallback amount c)
  | throwsMatching c => throwsMatching (withFallback amount c)
  | c => c

end Constraint

end Expectation
