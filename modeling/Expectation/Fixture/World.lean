import Expectation.Fixture.Script
import Expectation.Fixture.Staff
import Expectation.Value.Host

/-!
# A scripted host

A host whose objects and code follow scripts, so that assertions can be tried out against it.

* `Stub`: an object that answers from tables;
* `World`: the objects, the code and the next free address;
* `World.newText`, `World.newStub`, `World.newMember`, `World.newFault`, `World.newCode`: new
  instances;
* `World.host`: the answers. A stub hands out its stored instances; members of staff build the values
  of their properties anew at each question;
* `World.trace`: the calls that were made, in words.
-/

namespace Expectation.Fixture

/-- An object that answers from tables. Without lists of type names it knows its own type only. -/
structure Stub where
  label : String
  typeName : String
  properties : List (String × Value)
  attributes : List (String × Value)
  instanceOf : Option (List String)
  assignableFrom : Option (List String)

/-- The object is at home in a type, by a list of names or by its own name. -/
def Stub.knows (s : Stub) (names : Option (List String)) (typeName : String) : Bool :=
  match names with
  | some names => names.contains typeName
  | none => s.typeName == typeName

/-- An object of the scripted host. -/
inductive Actor where
  | stub (s : Stub)
  | member (m : Member)

/-- The state of the scripted host. Objects and code lie at their addresses in the arrays. -/
structure World where
  nextAddress : Nat
  objects : Array Actor
  codes : Array Script

namespace World

/-- The world without objects and code. -/
def empty : World := ⟨0, #[], #[]⟩

/-! ## New instances -/

/-- A new instance of a text. -/
def newText (content : String) : StateM World SharedText := do
  let w ← get
  set { w with nextAddress := w.nextAddress + 1 }
  pure ⟨w.nextAddress, content⟩

/-- A new text as a value. -/
def textValue (content : String) : StateM World Value := do pure (.text (← newText content))

/-- A new fault. -/
def newFault (kind message : String) : StateM World Fault := do
  let w ← get
  set { w with nextAddress := w.nextAddress + 3 }
  pure (.new w.nextAddress kind message)

/-- A new object of some type with its texts. -/
def newObject (actor : Actor) (typeName rendered dumped : String) : StateM World HostObject := do
  let w ← get
  set { w with objects := w.objects.push actor }
  pure ⟨w.objects.size, typeName, rendered, dumped⟩

/-- A new stub. -/
def newStub (s : Stub) (rendered : Option String) : StateM World HostObject :=
  newObject (.stub s) s.typeName (rendered.getD ("<" ++ s.typeName ++ ">")) s.typeName

/-- A new member of staff. -/
def newMember (m : Member) : StateM World HostObject :=
  newObject (.member m) m.typeName m.rendered m.dump

/-- New code. -/
def newCode (s : Script) : StateM World Code := do
  let w ← get
  set { w with codes := w.codes.push s }
  pure ⟨w.codes.size⟩

/-! ## Answers -/

/-- The property of a member of staff. -/
def memberProperty (m : Member) (name : String) : StateM World (Option Value) := do
  let record := m.record
  if name = "name" then pure (some (← textValue record.name))
  else if name = "age" then pure (some (.int record.age))
  else if name = "email" then
    match record.email with
    | some address => pure (some (← textValue address))
    | none => pure (some .null)
  else if name = "skills" then pure (some (.list (← record.skills.mapM textValue)))
  else
    match m with
    | .manager ⟨_, reports⟩ =>
      if name = "reports" then
        pure (some (.list (← reports.mapM fun e => do pure (.object (← newMember (.employee e))))))
      else pure none
    | .employee _ => pure none

/-- The property of an object. -/
def propertyOf (o : HostObject) (name : String) : StateM World (Option Value) := do
  match (← get).objects[o.address]? with
  | some (.stub s) => pure (s.properties.lookup name)
  | some (.member m) => memberProperty m name
  | none => pure none

/-- The attribute of an object. -/
def attributeOf (o : HostObject) (name : String) : StateM World (Option Value) := do
  match (← get).objects[o.address]? with
  | some (.stub s) => pure (s.attributes.lookup name)
  | some (.member _) => if name = "Table" then pure (some (← textValue "employees")) else pure none
  | none => pure none

/-- The object is of the named type or of one below it. -/
def instanceOf (o : HostObject) (typeName : String) : StateM World Bool := do
  match (← get).objects[o.address]? with
  | some (.stub s) => pure (s.knows s.instanceOf typeName)
  | some (.member m) => pure (m.isInstance typeName)
  | none => pure false

/-- The object's type accepts values of the named type. -/
def assignableFrom (o : HostObject) (typeName : String) : StateM World Bool := do
  match (← get).objects[o.address]? with
  | some (.stub s) => pure (s.knows s.assignableFrom typeName)
  | some (.member m) => pure (m.accepts typeName)
  | none => pure false

/-- Runs code for as many times as it has been run and once more. -/
def run (c : Code) (w : World) : Run World :=
  match w.codes[c.address]? with
  | some script =>
    ⟨script.current.ending w.nextAddress, w.nextAddress,
      { w with
        nextAddress := w.nextAddress + 3
        codes := w.codes.setIfInBounds c.address script.advance }⟩
  | none => ⟨.completed, w.nextAddress, w⟩

/-- The scripted host. -/
def host : Host World where
  propertyOf o name w := (propertyOf o name).run w
  attributeOf o name w := (attributeOf o name).run w
  instanceOf o typeName w := (instanceOf o typeName).run w
  assignableFrom o typeName w := (assignableFrom o typeName).run w
  run c w := (run c w).answer

/-! ## Traces -/

/-- The label of an object. Members of staff have none. -/
def labelOf? (w : World) (o : HostObject) : Option String :=
  match w.objects[o.address]? with
  | some (.stub s) => some s.label
  | _ => none

/-- How often code has run. -/
def runsOf (w : World) (address : Nat) : Nat := ((w.codes[address]?).map Script.runs).getD 0

/-- The lines for some calls, by the labels of a world and the runs of code before them. What has no label
does not show. -/
def traceFrom (w : World) (runs : Nat → Nat) : List Call → List String
  | [] => []
  | call :: rest =>
    let told := fun (o : HostObject) (question : String) =>
      (w.labelOf? o).toList.map (· ++ question) ++ traceFrom w runs rest
    match call with
    | .propertyOf o name => told o (" property " ++ name)
    | .attributeOf o name => told o (" attribute " ++ name)
    | .instanceOf o name => told o (" instance_of " ++ name)
    | .assignableFrom o name => told o (" assignable_from " ++ name)
    | .compute => "lazy" :: traceFrom w runs rest
    | .run c =>
      let n := runs c.address + 1
      let label := (w.codes[c.address]?).bind Script.label
      label.toList.map (· ++ " run " ++ toString n) ++
        traceFrom w (fun address => if address = c.address then n else runs address) rest

/-- The trace of the calls that led from one world to another. -/
def trace (before after : World) (calls : List Call) : List String :=
  traceFrom after before.runsOf calls

end World

end Expectation.Fixture
