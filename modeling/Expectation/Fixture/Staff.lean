import Expectation.Value.Render

/-!
# Staff

Sample objects with properties, an attribute and two types, of which managers also belong to the
other.

* `Employee`, `Manager`: the records;
* `Member`: one of the two, with the answers about its types and its texts.
-/

namespace Expectation.Fixture

/-- An employee. -/
structure Employee where
  name : String
  age : Int64
  email : Option String
  skills : List String

/-- An employee with others who report to them. -/
structure Manager where
  employee : Employee
  reports : List Employee

/-- A member of staff. -/
inductive Member where
  | employee (e : Employee)
  | manager (m : Manager)

/-- The fields of a record for developers. -/
def dumpRecord (typeName : String) (fields : List (String × String)) : String :=
  typeName ++ " \x7b " ++ commaSeparated (fields.map fun (name, text) => name ++ ": " ++ text) ++
    " \x7d"

/-- A list of texts for developers. -/
def dumpList (texts : List String) : String := "[" ++ commaSeparated texts ++ "]"

/-- The employee for developers. -/
def Employee.dump (e : Employee) : String :=
  dumpRecord "Employee"
    [("name", Text.quoted e.name),
     ("age", toString e.age.toInt),
     ("email", match e.email with
       | some address => "Some(" ++ Text.quoted address ++ ")"
       | none => "None"),
     ("skills", dumpList (e.skills.map Text.quoted))]

/-- The manager for developers. -/
def Manager.dump (m : Manager) : String :=
  dumpRecord "Manager"
    [("employee", m.employee.dump), ("reports", dumpList (m.reports.map Employee.dump))]

namespace Member

/-- The record that both kinds have. -/
def record : Member → Employee
  | employee e => e
  | manager m => m.employee

/-- The name of the type. -/
def typeName : Member → String
  | employee _ => "Employee"
  | manager _ => "Manager"

/-- Managers are employees too. -/
def isInstance (typeName : String) : Member → Bool
  | employee _ => typeName == "Employee"
  | manager _ => typeName == "Manager" || typeName == "Employee"

/-- A manager can stand where an employee is expected. -/
def accepts (typeName : String) : Member → Bool
  | employee _ => typeName == "Employee" || typeName == "Manager"
  | manager _ => typeName == "Manager"

/-- The member in messages. -/
def rendered (m : Member) : String := "<" ++ m.typeName ++ " " ++ m.record.name ++ ">"

/-- The member for developers. -/
def dump : Member → String
  | employee e => e.dump
  | manager m => m.dump

end Member

end Expectation.Fixture
