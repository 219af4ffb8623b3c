import Expectation.Constraint.Verdict
import Expectation.Value.Host

/-!
# Evaluation

Testing a value against a constraint, over a host.

* `textOccurs`: the test of text constraints;
* `Constraint.evaluate`: the verdict of a constraint on a value, as a trial;
* `Constraint.matching`: whether that verdict is a pass.

A combination stops at the branch that decides it and a quantifier at the item that decides it, so
that nothing more is asked of the host. `and` hands on the verdict of its branch and a context that of
its inner constraint; `not`, `items` and `or` are to blame themselves.
-/

namespace Expectation

/-- The characters occur in the text one after the other. -/
def occursIn (needle : List Char) : List Char → Bool
  | [] => needle.isEmpty
  | c :: rest => needle.isPrefixOf (c :: rest) || occursIn needle rest

/-- The actual text has the expected one in the place where it is looked for. -/
def textOccurs (expected actual : String) (position : TextPosition) (ignoreCase : Bool) : Bool :=
  let fold := fun s : String => if ignoreCase then Text.lowercase s.toList else s.toList
  match position with
  | .anywhere => occursIn (fold expected) (fold actual)
  | .start => (fold expected).isPrefixOf (fold actual)
  | .finish => (fold expected).isSuffixOf (fold actual)

namespace Constraint

/-- Blames a constraint for what it saw. -/
def blame (c : Constraint) (seen : Observed) : Verdict := .fail ⟨[], [], c, seen⟩

/-- Blames a constraint for a value unless the value is accepted. -/
def check (c : Constraint) (accepted : Bool) (v : Value) : Verdict :=
  if accepted then .pass else c.blame (.value v)

/-- A constraint without inner constraints that needs no host accepts the value. -/
def accepts : Constraint → Value → Bool
  | equal e t i, v => e.matching t i v
  | ordering c e, v => (v.compare? e).any c.holds
  | sameAs e, v => e.sameInstance v
  | isNull, v => v.isNull
  | isTrue, v => v.asBool == some true
  | isFalse, v => v.asBool == some false
  | isNaN, .float x => x.isNaN
  | isEmpty, .text t => t.content.isEmpty
  | isEmpty, .list members => members.isEmpty
  | contains e, .list members => members.any (e.matching none false)
  | text e p i, .text t => textOccurs e t.content p i
  | exactType s, v => !v.isNull && v.typeName == s
  | _, _ => false

variable {σ : Type} (host : Host σ)

/-- The verdict of a constraint on a value. -/
def evaluate (c : Constraint) (v : Value) : Trial σ Verdict :=
  match c with
  | isEmpty =>
    match v with
    | .list (item :: rest) => pure (isEmpty.blame (.counted v (item :: rest).length))
    | v => pure (isEmpty.check (isEmpty.accepts v) v)
  | instanceOf s => do pure ((instanceOf s).check (← v.isInstance host s) v)
  | assignableFrom s => do pure ((assignableFrom s).check (← v.isAssignable host s) v)
  | hasProperty s => do pure ((hasProperty s).check (← v.property? host s).isSome v)
  | hasAttribute s => do pure ((hasAttribute s).check (← v.attribute? host s).isSome v)
  | throws =>
    match v with
    | .code code => do
      match ← host.raised code with
      | some _ => pure .pass
      | none => pure (throws.blame .noFault)
    | v => pure (throws.blame (.value v))
  | throwsNothing =>
    match v with
    | .code code => do
      match ← host.raised code with
      | some fault => pure (throwsNothing.blame (.value (.fault fault)))
      | none => pure .pass
    | v => pure (throwsNothing.blame (.value v))
  | not inner => do pure ((not inner).check (!(← inner.evaluate v).isPass) v)
  | items q inner =>
    match v with
    | .list members => do
      let accepted ← match q with
        | .all => members.allM fun member => do pure (← inner.evaluate member).isPass
        | .some => members.anyM fun member => do pure (← inner.evaluate member).isPass
        | .none => do
          pure (!(← members.anyM fun member => do pure (← inner.evaluate member).isPass))
      pure ((items q inner).check accepted v)
    | v => pure ((items q inner).blame (.value v))
  | and left right => do
    match ← left.evaluate v with
    | .pass => pure ((← right.evaluate v).along .right)
    | failed => pure (failed.along .left)
  | or left right => do
    if (← left.evaluate v).isPass then pure .pass
    else pure ((or left right).check (← right.evaluate v).isPass v)
  | propertyIs name inner => do
    match ← v.property? host name with
    | some found => pure ((← inner.evaluate found).within (propertyIs name inner))
    | none => pure ((propertyIs name inner).blame (.value v))
  | attributeIs name inner => do
    match ← v.attribute? host name with
    | some found => pure ((← inner.evaluate found).within (attributeIs name inner))
    | none => pure ((attributeIs name inner).blame (.value v))
  | throwsMatching inner =>
    match v with
    | .code code => do
      match ← host.raised code with
      | some fault => pure ((← inner.evaluate (.fault fault)).within (throwsMatching inner))
      | none => pure ((throwsMatching inner).blame .noFault)
    | v => pure ((throwsMatching inner).blame (.value v))
  | c => pure (c.check (c.accepts v) v)

/-- The value satisfies the constraint. -/
def satisfied (c : Constraint) (v : Value) : Trial σ Bool := do pure (← c.evaluate host v).isPass

end Constraint

end Expectation
