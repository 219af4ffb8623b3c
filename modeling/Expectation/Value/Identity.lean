import Expectation.Value.Basic

/-!
# Identity of values

Two notions that look at a value without interpreting it.

* `Value.same`: structural identity, where numbers are compared by their bits, texts by their content
  and objects, faults and code by their instance; it is the `==` of values;
* `Value.sameInstance`: the values are one instance, which no two lists are.
-/

namespace Expectation.Value

mutual

/-- The two values are structurally identical. -/
def same : Value → Value → Bool
  | null, null => true
  | bool a, bool b => a == b
  | int a, int b => a == b
  | float x, float y => decide (x = y)
  | text s, text t => s.content == t.content
  | list xs, list ys => sameItems xs ys
  | object o, object p => o.address == p.address
  | fault f, fault g => f.address == g.address
  | code c, code d => c.address == d.address
  | _, _ => false

/-- The lists are structurally identical, item by item. -/
def sameItems : List Value → List Value → Bool
  | [], [] => true
  | x :: xs, y :: ys => same x y && sameItems xs ys
  | _, _ => false

end

instance : BEq Value := ⟨same⟩

/-- The values are the same instance: texts by address, lists never, all else by identity. -/
def sameInstance (expected actual : Value) : Bool :=
  match expected, actual with
  | text s, text t => decide (s = t)
  | list _, _ => false
  | _, list _ => false
  | _, _ => expected == actual

end Expectation.Value
