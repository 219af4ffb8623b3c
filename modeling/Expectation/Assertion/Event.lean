import Expectation.Chain.Basic

/-!
# Events

What assertions log: records with a level, a target and fields.

* `Level`, `Level.within`: how much a log shows;
* `FieldValue`, `Event`: a record;
* `Event.illegalStep`, `Event.reduced`, `Event.resolved`, `Event.passed`, `Event.failed`,
  `Event.signalled`, `Event.counted`: the records of assertions;
* `Chain.events`: what building and resolving a chain logs.
-/

namespace Expectation

/-- The level of an event, from the most to the least urgent. -/
inductive Level where
  | error
  | warn
  | info
  | debug
  | trace
deriving DecidableEq

/-- The rank of a level, one being the most urgent. -/
def Level.rank : Level → Nat
  | error => 1
  | warn => 2
  | info => 3
  | debug => 4
  | trace => 5

/-- The level is shown where `maximum` is the last that is; without a maximum none is. -/
def Level.within (level : Level) (maximum : Option Level) : Bool :=
  maximum.any fun m => decide (level.rank ≤ m.rank)

/-- The value of a field. -/
inductive FieldValue where
  /-- A literal text. -/
  | text (s : String)
  /-- A value by its text. -/
  | shown (s : String)
  | unsigned (n : UInt64)
  | signed (n : Int64)
deriving DecidableEq

/-- A record of a log. -/
structure Event where
  level : Level
  target : String
  fields : List (String × FieldValue)
deriving DecidableEq

namespace Event

/-- An event of a part of this library, under its name. -/
def ofPart (level : Level) (part name : String) (fields : List (String × FieldValue)) : Event :=
  ⟨level, "assertforge_core::" ++ part, ("event", .text name) :: fields⟩

/-- A number as a field. -/
def number (n : Nat) : FieldValue := .unsigned (.ofNat n)

/-- An illegal call was made on a chain. -/
def illegalStep (step : Chain.Step) (state : Chain.State) (position : Nat) : Event :=
  ofPart .warn "expression" "illegal_step"
    [("step", .shown step.display), ("state", .shown state.display), ("position", number position)]

/-- An operator was reduced, with so many operands at hand. -/
def reduced (r : Reduction) : Event :=
  ofPart .trace "machine" "reduce"
    [("operator", .shown r.operator.display), ("operands", number r.operands)]

/-- So many tokens were resolved to so many nodes. -/
def resolved (tokens nodes : Nat) : Event :=
  ofPart .debug "machine" "resolve" [("tokens", number tokens), ("nodes", number nodes)]

/-- The assertion of this number passed. -/
def passed (count : UInt64) : Event :=
  ofPart .trace "assert" "assert_pass" [("count", .unsigned count)]

/-- The assertion of this number rejected a value. -/
def failed (count : UInt64) (constraint message : String) : Event :=
  ofPart .debug "assert" "assert_fail"
    [("count", .unsigned count), ("constraint", .shown constraint), ("message", .shown message)]

/-- A test was ended by a signal. -/
def signalled (signal : String) : Event :=
  ofPart .debug "assert" "assert_signal" [("signal", .shown signal)]

/-- The assertions were counted. -/
def counted (count : UInt64) : Event :=
  ofPart .info "counter" "assert_count" [("count", .unsigned count)]

end Event

namespace Chain

variable (chain : Chain)

/-- What the illegal call on the chain logged, if there was one. -/
def warnings : List Event :=
  match chain.error with
  | some (.illegalStep step state position) => [.illegalStep step state position]
  | _ => []

/-- What resolving the chain logs: each reduction, and at last a success. -/
def resolutionEvents : List Event :=
  chain.resolution.bench.reductions.reverse.map .reduced ++
    match chain.resolve with
    | .ok c => [.resolved chain.tokens.length c.nodeCount]
    | .error _ => []

/-- What building and resolving the chain logs. -/
def events : List Event := chain.warnings ++ chain.resolutionEvents

end Chain

end Expectation
