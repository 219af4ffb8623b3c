import Expectation.Binary64.Arithmetic

/-!
# Values

The values that assertions test and that constraints expect. Texts, host objects, faults and code
are shared: each carries the address of its instance, so that two equal texts can be told apart and
an object is nothing but its identity to everyone except its host.

* `SharedText`, `HostObject`, `Fault`, `Code`: the shared parts of values;
* `Value`, with its views `asBool`, `asInt`, `asFloat`, `asText`, `asList`;
* `typeName`: the name of a value's type;
* `ofInteger`, `ofOption`: values from integers of any width and from optional values.
-/

namespace Expectation

/-- A text and the address of its instance. -/
structure SharedText where
  address : Nat
  content : String
deriving DecidableEq

/-- An object of the host program. The host answers questions about it by its address; the name of
its type and its texts in messages and in dumps never change. -/
structure HostObject where
  address : Nat
  typeName : String
  rendered : String
  dumped : String
deriving DecidableEq

/-- A failure raised by code: its kind and what it says. -/
structure Fault where
  address : Nat
  kind : SharedText
  message : SharedText
deriving DecidableEq

/-- A block of code, which the host runs. -/
structure Code where
  address : Nat
deriving DecidableEq

/-- A value under test, or one that a constraint expects. -/
inductive Value where
  | null
  | bool (b : Bool)
  | int (n : Int64)
  | float (x : Binary64)
  | text (t : SharedText)
  | list (items : List Value)
  | object (o : HostObject)
  | fault (f : Fault)
  | code (c : Code)

/-! ## Faults -/

namespace Fault

variable (f g : Fault)

/-- Two faults say the same. -/
def agrees : Bool := f.kind.content == g.kind.content && f.message.content == g.message.content

/-- The fault in running text. -/
def display : String := f.kind.content ++ ": " ++ f.message.content

/-- The fault as an object in a message. -/
def rendered : String := "<" ++ f.display ++ ">"

end Fault

/-! ## Views of a value -/

namespace Value

/-- The value is null. -/
def isNull : Value → Bool
  | null => true
  | _ => false

/-- The value is a number. -/
def isNumeric : Value → Bool
  | int _ | float _ => true
  | _ => false

/-- The truth value, if it is one. -/
def asBool : Value → Option Bool
  | bool b => some b
  | _ => none

/-- The integer, if it is one. -/
def asInt : Value → Option Int64
  | int n => some n
  | _ => none

/-- The number, an integer being rounded to the nearest double. -/
def asFloat : Value → Option Binary64
  | int n => some (.ofInt n.toInt)
  | float x => some x
  | _ => none

/-- The content of a text. -/
def asText : Value → Option String
  | text t => some t.content
  | _ => none

/-- The items of a list. -/
def asList : Value → Option (List Value)
  | list items => some items
  | _ => none

/-- The name of the value's type. A fault is an object whose type is its kind. -/
def typeName : Value → String
  | null => "null"
  | bool _ => "bool"
  | int _ => "int"
  | float _ => "float"
  | text _ => "string"
  | list _ => "list"
  | object o => o.typeName
  | fault f => f.kind.content
  | code _ => "code"

/-! ## Values from elsewhere -/

/-- An integer of any width: itself where it fits, and otherwise the nearest double. -/
def ofInteger (n : Int) : Value :=
  if Int64.minValue.toInt ≤ n ∧ n ≤ Int64.maxValue.toInt then int (Int64.ofInt n)
  else float (.ofInt n)

/-- A value that may be absent. -/
def ofOption : Option Value → Value
  | some v => v
  | none => null

end Value

end Expectation
