import Expectation.Value.Trial

/-!
# Hosts

A host answers the questions about its objects and runs code. Its answers may depend on its state,
and each may change it.

* `Host`: the five answers;
* `Value.isInstance`, `Value.isAssignable`, `Value.property?`, `Value.attribute?`: the questions put
  to a value, of which only those to objects reach the host;
* `Host.raised`: the fault that a run of code raises.
-/

namespace Expectation

/-- The answers of a program that owns objects and code. -/
structure Host (σ : Type) where
  /-- The value of a property, if the object has it. -/
  propertyOf : HostObject → String → σ → Option Value × σ
  /-- The value of an attribute, if the object has it. -/
  attributeOf : HostObject → String → σ → Option Value × σ
  /-- The object is of the named type or of one below it. -/
  instanceOf : HostObject → String → σ → Bool × σ
  /-- The object's type accepts values of the named type. -/
  assignableFrom : HostObject → String → σ → Bool × σ
  /-- The fault that the code raises in a run, if it raises one. -/
  run : Code → σ → Option Fault × σ

variable {σ : Type} (host : Host σ)

/-- Runs code and answers with the fault it raised. -/
def Host.raised (c : Code) : Trial σ (Option Fault) := .ask (.run c) (host.run c)

/-- The property of a fault. -/
def Fault.property? (f : Fault) (name : String) : Option Value :=
  if name = "kind" then some (.text f.kind)
  else if name = "message" then some (.text f.message)
  else none

namespace Value

/-- The names under which texts and lists tell their length. -/
def isLengthName (name : String) : Bool := name == "length" || name == "count"

/-- The value is of the named type; numbers are also of the type `number`. -/
def isInstance (v : Value) (typeName : String) : Trial σ Bool :=
  match v with
  | null => pure false
  | object o => .ask (.instanceOf o typeName) (host.instanceOf o typeName)
  | v => pure (v.isNumeric && typeName == "number" || v.typeName == typeName)

/-- The value's type accepts values of the named type. -/
def isAssignable (v : Value) (typeName : String) : Trial σ Bool :=
  match v with
  | null => pure false
  | object o => .ask (.assignableFrom o typeName) (host.assignableFrom o typeName)
  | v => pure (v.typeName == typeName)

/-- The value of a property, if there is one. Texts count their characters and lists their items. -/
def property? (v : Value) (name : String) : Trial σ (Option Value) :=
  match v with
  | text t => pure (if isLengthName name then some (ofInteger t.content.length) else none)
  | list items => pure (if isLengthName name then some (ofInteger items.length) else none)
  | object o => .ask (.propertyOf o name) (host.propertyOf o name)
  | fault f => pure (f.property? name)
  | _ => pure none

/-- The value of an attribute, if there is one. Only objects of the host have attributes. -/
def attribute? (v : Value) (name : String) : Trial σ (Option Value) :=
  match v with
  | object o => .ask (.attributeOf o name) (host.attributeOf o name)
  | _ => pure none

end Value

end Expectation
