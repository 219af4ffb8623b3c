import Expectation.Assertion.Basic
import Expectation.Configuration.Node
import Expectation.Text.Blank

/-!
# Configuration

The settings of assertions and of the console, as they come from a document that a parser has read.

* `Configuration`, `Configuration.default`, `Configuration.settings`: the settings;
* `Configuration.validate`: the ranges that documents cannot express;
* `Configuration.ofNode?`: the settings that a document holds;
* `Configuration.ofText`, `Configuration.ofFile`: parsing, decoding and validating.
-/

namespace Expectation

/-- Why there is no configuration. -/
inductive ConfigurationError where
  | io
  | toml
  | yaml
  | invalid (reason : String)
deriving DecidableEq

/-- What a configuration error says, where this library words it. -/
def ConfigurationError.message : ConfigurationError → Option String
  | invalid reason => some ("Invalid configuration: " ++ reason)
  | io | toml | yaml => none

/-- The settings of assertions and of the console. -/
structure Configuration where
  limits : RenderLimits
  defaultTolerance : Option Binary64
  /-- The directive of the console's filter. -/
  filter : String

namespace Configuration

/-- The directive where none is configured. -/
def defaultFilter : String := "assertforge_core=info"

/-- The settings where nothing is configured. -/
def default : Configuration := ⟨.default, none, defaultFilter⟩

/-- Tolerances are the same when both are absent or their amounts are numerically equal. -/
def sameTolerance : Option Binary64 → Option Binary64 → Bool
  | none, none => true
  | some x, some y => x.eq y
  | _, _ => false

/-- The two configurations are the same. -/
def same (a b : Configuration) : Bool :=
  decide (a.limits = b.limits) && sameTolerance a.defaultTolerance b.defaultTolerance &&
    a.filter == b.filter

instance : BEq Configuration := ⟨same⟩

variable (c : Configuration)

/-- The settings of assertions. -/
def settings : Settings := ⟨c.limits, c.defaultTolerance⟩

/-- Another default tolerance. -/
def withDefaultTolerance (amount : Binary64) : Configuration :=
  { c with defaultTolerance := some amount }

/-- Another limit on texts. -/
def withMaxTextLength (length : Nat) : Configuration :=
  { c with limits := { c.limits with maxTextLength := length } }

/-- Another limit on lists. -/
def withMaxItems (items : Nat) : Configuration :=
  { c with limits := { c.limits with maxItems := items } }

/-- Another directive for the console's filter. -/
def withFilter (directive : String) : Configuration := { c with filter := directive }

/-! ## Validation -/

/-- The amount may be a default tolerance. -/
def validTolerance (amount : Binary64) : Bool := amount.isFinite && !amount.lt (.zero false)

/-- What is out of range, if anything is. The tolerance is looked at first. -/
def validate : Except ConfigurationError Unit :=
  match c.defaultTolerance.filter (!validTolerance ·) with
  | some amount =>
    .error (.invalid ("default_tolerance must be a finite, non-negative number, got " ++
      amount.text .plain))
  | none =>
    if Text.isBlank c.filter.toList then .error (.invalid "console.filter must not be empty")
    else .ok ()

/-! ## Documents -/

/-- The entries of a section. -/
def entries? : Node → Option Entries
  | .table entries => some entries
  | .scalar s => if s.isBare then some [] else none
  | .sequence => none

/-- The node of a key: there may be none, and there must not be two. -/
def only? (key : String) (entries : Entries) : Option (Option Node) :=
  match entries.filter fun e => e.1 == key with
  | [] => some none
  | [(_, node)] => some (some node)
  | _ => none

/-- The value of a key, or what stands for a missing one. -/
def valueAt? {α : Type} (key : String) (missing : α) (decode : Node → Option α) (entries : Entries) :
    Option α := do
  match ← only? key entries with
  | none => some missing
  | some node => decode node

/-- A count, in a machine word. -/
def count? : Node → Option Nat
  | .scalar s => s.count.filter fun n => decide (n < UInt64.size)
  | _ => none

/-- A double that may be left out. -/
def optionalNumber? : Node → Option (Option Binary64)
  | .scalar s => if s.isNull then some none else s.number.map some
  | _ => none

/-- A text. -/
def text? : Node → Option String
  | .scalar s => s.text
  | _ => none

/-- The limits in a section. Without an entry texts are not clipped. -/
def limits? (node : Node) : Option RenderLimits := do
  let entries ← entries? node
  let length ← valueAt? "max_string_length" 0 count? entries
  let items ← valueAt? "max_items" RenderLimits.default.maxItems count? entries
  some ⟨length, items⟩

/-- The filter in a section. -/
def filter? (node : Node) : Option String := do
  valueAt? "filter" defaultFilter text? (← entries? node)

/-- The configuration that a document holds. Keys that it does not know are passed over. -/
def ofNode? (document : Node) : Option Configuration := do
  let entries ← entries? document
  let limits ← valueAt? "render" .default limits? entries
  let tolerance ← valueAt? "default_tolerance" none optionalNumber? entries
  let filter ← valueAt? "console" defaultFilter filter? entries
  some ⟨limits, tolerance, filter⟩

/-! ## Loading -/

/-- The error of a document that cannot be read. -/
def Language.error : Language → ConfigurationError
  | toml => .toml
  | yaml => .yaml

/-- A configuration that is in range. -/
def validated (c : Configuration) : Except ConfigurationError Configuration := do
  c.validate
  .ok c

/-- The configuration in the text of a document. -/
def ofText (parse : Parser) (language : Language) (text : String) :
    Except ConfigurationError Configuration :=
  match (parse language text).bind ofNode? with
  | some c => c.validated
  | none => .error language.error

/-- The configuration in a file, whose content is missing where there is no such file. -/
def ofFile (parse : Parser) (language : Language) (content : Option ByteArray) :
    Except ConfigurationError Configuration :=
  match content.bind String.fromUTF8? with
  | some text => ofText parse language text
  | none => .error .io

end Configuration

end Expectation
