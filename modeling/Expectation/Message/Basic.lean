import Expectation.Message.Template

/-!
# Messages

The message that a user adds to an assertion.

* `Message`: a template and its arguments;
* `Message.render`: the text, in which a template without arguments stands as it is.
-/

namespace Expectation

/-- A message: a template, if there is one, and arguments for it. -/
structure Message where
  template : Option String
  args : List Value

namespace Message

/-- No message. -/
def none : Message := ⟨Option.none, []⟩

/-- A message without arguments. -/
def ofText (text : String) : Message := ⟨some text, []⟩

variable (m : Message)

/-- One argument more. -/
def withArg (v : Value) : Message := { m with args := m.args ++ [v] }

/-- Other arguments. -/
def withArgs (args : List Value) : Message := { m with args }

/-- The text of the message. -/
def render : Except FormatError String :=
  match m.template with
  | Option.none => .ok ""
  | some template => if m.args.isEmpty then .ok template else formatTemplate template m.args

end Message

end Expectation
