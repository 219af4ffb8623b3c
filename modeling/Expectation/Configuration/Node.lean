import Expectation.Binary64.Arithmetic

/-!
# Parsed documents

What a parser makes of the text of a document, whatever the language it is written in.

* `Scalar`, `Node`: single values and sections;
* `Language`, `Parser`: the languages of documents, and what reads them.
-/

namespace Expectation.Configuration

/-- What a single value stands for, by what is wanted of it. A value may stand for several things,
and for none. -/
structure Scalar where
  /-- As a double. -/
  number : Option Binary64
  /-- As a count. -/
  count : Option Nat
  /-- As a text. -/
  text : Option String
  /-- It stands for an optional value that is left out. -/
  isNull : Bool
  /-- It stands for a section without entries. -/
  isBare : Bool
deriving DecidableEq

namespace Scalar

/-- A value that stands for nothing that is wanted, such as a truth value. -/
def other : Scalar := ⟨none, none, none, false, false⟩

/-- A text. -/
def ofText (text : String) : Scalar := { other with text }

/-- A double. -/
def ofNumber (x : Binary64) : Scalar := { other with number := some x }

/-- An integer, which also stands for a double, and for a count unless it is negative. -/
def ofInteger (n : Int) : Scalar :=
  { other with number := some (.ofInt n), count := if 0 ≤ n then some n.toNat else none }

end Scalar

/-- A part of a document. -/
inductive Node where
  | scalar (s : Scalar)
  | table (entries : List (String × Node))
  | sequence

/-- The entries of a section. -/
abbrev Entries := List (String × Node)

mutual

/-- Nodes are compared part by part. -/
def Node.decEq : (a b : Node) → Decidable (a = b)
  | .scalar s, .scalar t => decidable_of_iff (s = t) (by rw [Node.scalar.injEq])
  | .table entries, .table others =>
    have := Node.entriesDecEq entries others
    decidable_of_iff (entries = others) (by rw [Node.table.injEq])
  | .sequence, .sequence => isTrue rfl
  | .scalar _, .table _ | .scalar _, .sequence | .table _, .scalar _ | .table _, .sequence
  | .sequence, .scalar _ | .sequence, .table _ => isFalse nofun

/-- Entries are compared one by one. -/
def Node.entriesDecEq : (a b : Entries) → Decidable (a = b)
  | [], [] => isTrue rfl
  | [], _ :: _ | _ :: _, [] => isFalse nofun
  | (key, node) :: rest, (key', node') :: rest' =>
    have := Node.decEq node node'
    have := Node.entriesDecEq rest rest'
    decidable_of_iff (key = key' ∧ node = node' ∧ rest = rest') (by simp [and_assoc])

end

instance : DecidableEq Node := Node.decEq

/-- The language of a document. -/
inductive Language where
  | toml
  | yaml
deriving DecidableEq

/-- What reads documents: the node that a text stands for in its language, if it can be made out. -/
abbrev Parser := Language → String → Option Node

end Expectation.Configuration
