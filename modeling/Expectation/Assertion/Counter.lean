/-!
# Assertion counters

* `Counter`: the number of assertions since the last reset, in a machine word;
* `Counter.increment`, `Counter.readAndReset`: one assertion more, and the count with none left.
-/

namespace Expectation

/-- A count of assertions. -/
structure Counter where
  count : UInt64
deriving DecidableEq

namespace Counter

/-- Nothing counted yet. -/
def zero : Counter := ⟨0⟩

/-- One assertion more. -/
def increment (c : Counter) : Counter := ⟨c.count + 1⟩

/-- The count, and the counter set back to zero. -/
def readAndReset (c : Counter) : UInt64 × Counter := (c.count, zero)

end Counter

end Expectation
