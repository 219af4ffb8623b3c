import Expectation.Constraint.Basic
import Expectation.Value.Render

/-!
# Descriptions

What a constraint says it expects, as failure messages show it.

* `predicate`, `connector`: words before a value and between two descriptions;
* `Constraint.contextPhrase`: what a context says before its inner constraint;
* `Constraint.describe`: the description of a tree.
-/

namespace Expectation

/-- Words that go before a value or a description. -/
def predicate (words : String) : String := words ++ " "

/-- A word between two descriptions. -/
def connector (word : String) : String := " " ++ word ++ " "

/-- A tolerance after its expected value. -/
def Tolerance.describe (t : Tolerance) : String :=
  match t.mode with
  | .percent => " +/- " ++ t.amount.text .plain ++ "%"
  | .linear | .fallback => " +/- " ++ t.amount.text .precise

/-- Where a text is looked for, in words. -/
def TextPosition.label : TextPosition → String
  | anywhere => "string containing"
  | start => "string starting with"
  | finish => "string ending with"

/-- The quantifier in words. -/
def Quantifier.label : Quantifier → String
  | all => "all items"
  | some => "some item"
  | none => "no item"

/-- The mark of a comparison that ignores case. -/
def caseMark (ignoreCase : Bool) : String := if ignoreCase then ", ignoring case" else ""

/-- A type name in a description. -/
def typePhrase (typeName : String) : String := "<" ++ typeName ++ ">"

namespace Constraint

/-- What a context says before its inner constraint; other constraints say nothing. -/
def contextPhrase : Constraint → String
  | propertyIs name _ => predicate ("property " ++ name)
  | attributeIs name _ => predicate ("attribute " ++ name)
  | throwsMatching _ => predicate "fault"
  | _ => ""

/-- The description of a constraint, with values shown within the limits. -/
def describe (limits : RenderLimits) : Constraint → String
  | equal v t i =>
    v.render limits ++ (match t with | some t => t.describe | none => "") ++ caseMark i
  | ordering c v => predicate c.label ++ v.render limits
  | sameAs v => predicate "same as" ++ v.render limits
  | isNull => "null"
  | isTrue => "true"
  | isFalse => "false"
  | isNaN => "NaN"
  | isEmpty => "<empty>"
  | contains v => predicate "collection containing" ++ v.render limits
  | text s p i => predicate p.label ++ "\"" ++ limits.clip s ++ "\"" ++ caseMark i
  | instanceOf s => predicate "instance of" ++ typePhrase s
  | exactType s => typePhrase s
  | assignableFrom s => predicate "assignable from" ++ typePhrase s
  | hasProperty s => "property " ++ s
  | hasAttribute s => "attribute " ++ s
  | throws => "a fault"
  | throwsNothing => "no fault"
  | not c => predicate "not" ++ describe limits c
  | items q c => predicate q.label ++ describe limits c
  | and a b => describe limits a ++ connector "and" ++ describe limits b
  | or a b => describe limits a ++ connector "or" ++ describe limits b
  | propertyIs s c => contextPhrase (propertyIs s c) ++ describe limits c
  | attributeIs s c => contextPhrase (attributeIs s c) ++ describe limits c
  | throwsMatching c => contextPhrase (throwsMatching c) ++ describe limits c

/-- The description within the default limits. -/
def display (c : Constraint) : String := c.describe .default

end Constraint

end Expectation
