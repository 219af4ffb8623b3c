import Expectation.Assertion.Basic
import Expectation.Chain.Word

/-!
# Classic assertions

Common checks in one call, each an assertion with a fixed chain and default settings. What is
expected comes before the actual value.

* `Check`: a value under test and a chain;
* `Classic`: the checks;
* `Host.recording`, `throwsKind`: a check that hands out the fault it judged.
-/

namespace Expectation

variable {σ : Type}

/-- A check: the value under test and the calls of its chain. -/
structure Check (σ : Type) where
  actual : Actual σ
  words : List Chain.Word

/-- Makes the assertion of a check. -/
def Check.run (check : Check σ) (host : Host σ) (counter : Counter) (state : σ) : Report σ Unit :=
  assertThat host .default check.actual (.chain (.ofWords check.words)) .none counter state

namespace Classic

variable (expected : Value) (actual : Actual σ) (typeName : String)

/-- The values are equal. -/
def areEqual : Check σ := ⟨actual, [.equalTo expected]⟩

/-- The numbers differ by no more than an amount. -/
def areEqualWithin (expected actual amount : Binary64) : Check σ :=
  ⟨.value (.float actual), [.equalTo (.float expected), .within amount]⟩

/-- The values are not equal. -/
def areNotEqual : Check σ := ⟨actual, [.not, .equalTo expected]⟩

/-- The values are one instance. -/
def areSame : Check σ := ⟨actual, [.sameAs expected]⟩

/-- The values are not one instance. -/
def areNotSame : Check σ := ⟨actual, [.not, .sameAs expected]⟩

/-- The condition holds. -/
def isTrue (condition : Bool) : Check σ := ⟨.value (.bool condition), [.isTrue]⟩

/-- The condition does not hold. -/
def isFalse (condition : Bool) : Check σ := ⟨.value (.bool condition), [.isFalse]⟩

/-- The value is null. -/
def isNull : Check σ := ⟨actual, [.isNull]⟩

/-- The value is not null. -/
def isNotNull : Check σ := ⟨actual, [.not, .isNull]⟩

/-- The number is a NaN. -/
def isNaN (actual : Binary64) : Check σ := ⟨.value (.float actual), [.nan]⟩

/-- The value is an empty text or list. -/
def isEmpty : Check σ := ⟨actual, [.empty]⟩

/-- The value is not an empty text or list. -/
def isNotEmpty : Check σ := ⟨actual, [.not, .empty]⟩

/-- The value is null or an empty text or list. -/
def isNullOrEmpty : Check σ := ⟨actual, [.isNull, .or, .empty]⟩

/-- The value is neither null nor an empty text or list. -/
def isNotNullOrEmpty : Check σ := ⟨actual, [.not, .isNull, .and, .not, .empty]⟩

/-- The list has an item equal to the value. -/
def contains : Check σ := ⟨actual, [.member expected]⟩

/-- The actual value is the greater one. -/
def greater (actual : Actual σ) (than : Value) : Check σ := ⟨actual, [.compared .greater than]⟩

/-- The actual value is not the lesser one. -/
def greaterOrEqual (actual : Actual σ) (than : Value) : Check σ :=
  ⟨actual, [.compared .greaterOrEqual than]⟩

/-- The actual value is the lesser one. -/
def less (actual : Actual σ) (than : Value) : Check σ := ⟨actual, [.compared .less than]⟩

/-- The actual value is not the greater one. -/
def lessOrEqual (actual : Actual σ) (than : Value) : Check σ :=
  ⟨actual, [.compared .lessOrEqual than]⟩

/-- The value is of the type. -/
def isInstanceOf : Check σ := ⟨actual, [.instanceOf typeName]⟩

/-- The value is not of the type. -/
def isNotInstanceOf : Check σ := ⟨actual, [.not, .instanceOf typeName]⟩

/-- The value's type accepts values of the type. -/
def isAssignableFrom : Check σ := ⟨actual, [.assignableFrom typeName]⟩

/-- The value's type does not accept values of the type. -/
def isNotAssignableFrom : Check σ := ⟨actual, [.not, .assignableFrom typeName]⟩

/-- The code ends without a fault. -/
def doesNotThrow (code : Code) : Check σ := ⟨.value (.code code), [.nothing]⟩

/-- The code raises a fault of the kind. -/
def throwsKind (kind : String) (code : Code) : Check σ :=
  ⟨.value (.code code), Chain.faultOfKind kind⟩

end Classic

/-! ## The fault that was judged -/

/-- The host that also remembers the last fault that code raised. -/
def Host.recording (host : Host σ) : Host (σ × Option Fault) where
  propertyOf o name s := let (a, t) := host.propertyOf o name s.1; (a, t, s.2)
  attributeOf o name s := let (a, t) := host.attributeOf o name s.1; (a, t, s.2)
  instanceOf o name s := let (a, t) := host.instanceOf o name s.1; (a, t, s.2)
  assignableFrom o name s := let (a, t) := host.assignableFrom o name s.1; (a, t, s.2)
  run c s := let (raised, t) := host.run c s.1; (raised, t, raised.or s.2)

/-- A fault of a kind that says nothing, with no instance of its own. -/
def Fault.placeholder (kind : String) : Fault := ⟨0, ⟨0, kind⟩, ⟨0, ""⟩⟩

/-- Asserts that code raises a fault of the kind, and hands out that fault. -/
def Classic.throws (kind : String) (code : Code) (host : Host σ) (counter : Counter) (state : σ) :
    Report σ Fault :=
  let r := (Classic.throwsKind kind code).run host.recording counter (state, none)
  ⟨r.result.map fun _ => r.state.2.getD (.placeholder kind), r.counter, r.state.1, r.calls, r.events⟩

end Expectation
