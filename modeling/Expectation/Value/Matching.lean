import Expectation.Value.Identity
import Expectation.Value.Tolerance
import Expectation.Text.Lowercase

/-!
# Matching and order of values

The equality that equality and containment constraints use, and the order that ordering constraints
use. Integers and doubles are one kind of number to both.

* `numbersMatch`: equality of doubles, in which a NaN matches a NaN;
* `Value.matching`: equality of values under a tolerance and a choice of case;
* `Value.compare?`: the order of two values, where they have one;
* `Comparison`: the four comparisons and the orders that satisfy them.
-/

namespace Expectation

/-- The doubles are equal, or as near as the tolerance allows. An expected value that is not finite
takes no tolerance, and a NaN matches a NaN. -/
def numbersMatch (expected actual : Binary64) (tolerance : Option Tolerance) : Bool :=
  if expected.isFinite then
    match tolerance with
    | some t => t.admitsNumbers expected actual
    | none => expected.eq actual
  else expected.eq actual || expected.isNaN && actual.isNaN

/-- The integers are equal, or as near as a tolerance allows that is not a fallback. -/
def integersMatch (expected actual : Int64) (tolerance : Option Tolerance) : Bool :=
  match tolerance with
  | some t => if t.mode = .fallback then expected == actual else t.admitsIntegers expected actual
  | none => expected == actual

/-- The texts are equal, or equal in lower case. -/
def textsMatch (expected actual : String) (ignoreCase : Bool) : Bool :=
  if ignoreCase then decide (Text.lowercase expected.toList = Text.lowercase actual.toList)
  else expected == actual

namespace Value

mutual

/-- The actual value is what is expected. Numbers match across their types, lists item by item, and
objects, faults and code by identity. -/
def matching (tolerance : Option Tolerance) (ignoreCase : Bool) : Value → Value → Bool
  | null, null => true
  | bool a, bool b => a == b
  | int a, int b => integersMatch a b tolerance
  | int a, float y => numbersMatch (.ofInt a.toInt) y tolerance
  | float x, int b => numbersMatch x (.ofInt b.toInt) tolerance
  | float x, float y => numbersMatch x y tolerance
  | text s, text t => textsMatch s.content t.content ignoreCase
  | list xs, list ys => matchingItems tolerance ignoreCase xs ys
  | object o, object p => o.address == p.address
  | fault f, fault g => f.address == g.address
  | code c, code d => c.address == d.address
  | _, _ => false

/-- The lists have as many items, and these match one by one. -/
def matchingItems (tolerance : Option Tolerance) (ignoreCase : Bool) :
    List Value → List Value → Bool
  | [], [] => true
  | x :: xs, y :: ys =>
    matching tolerance ignoreCase x y && matchingItems tolerance ignoreCase xs ys
  | _, _ => false

end

/-- The order of two numbers, two texts or two truth values. -/
def compare? : Value → Value → Option Ordering
  | int a, int b => some (compare a.toInt b.toInt)
  | int a, float y => (Binary64.ofInt a.toInt).compare? y
  | float x, int b => x.compare? (.ofInt b.toInt)
  | float x, float y => x.compare? y
  | text s, text t => some (compare s.content t.content)
  | bool a, bool b => some (compare a.toNat b.toNat)
  | _, _ => none

end Value

/-- The comparisons of an ordering constraint. -/
inductive Comparison where
  | greater
  | greaterOrEqual
  | less
  | lessOrEqual
deriving DecidableEq

namespace Comparison

/-- The order of the actual value to the expected one satisfies the comparison. -/
def holds : Comparison → Ordering → Bool
  | greater, o => o.isGT
  | greaterOrEqual, o => o.isGE
  | less, o => o.isLT
  | lessOrEqual, o => o.isLE

/-- The comparison in words. -/
def label : Comparison → String
  | greater => "greater than"
  | greaterOrEqual => "greater than or equal to"
  | less => "less than"
  | lessOrEqual => "less than or equal to"

end Comparison

end Expectation
