import Mathlib.Algebra.Ring.Nat
import Mathlib.Data.Option.Basic
import Expectation.Configuration.Settings

/-!
# What documents say

A document is a mapping that may have entries for the settings among others. What it says about the settings
does not depend on the language it is written in: a parser reads it as a node that presents it.

* `Document`: what documents say about the settings;
* `Document.configuration`: the default settings with the entries of a document in their places;
* `Node.Presents`: the nodes that present a document;
* `Parser.Follows`: the parsers that read documents as the standards of the languages have it;
* `ofNode?_of_presents`: the configuration in such a node.
-/

namespace Expectation.Configuration

/-! ## Documents -/

/-- A number of a document: an integer of 64 bits or a double. -/
inductive Amount where
  | integer (n : Int64)
  | double (x : Binary64)

/-- The double that is meant. For an integer it is the nearest one. -/
def Amount.value : Amount → Binary64
  | integer n => .ofInt n.toInt
  | double x => x

/-- A count of a document: an integer of 64 bits that is not negative. -/
abbrev Count := Fin (2 ^ 63)

/-- What a document says about the limits. -/
structure LimitEntries where
  maxTextLength : Option Count
  maxItems : Option Count

/-- What a document says about the settings: the entries that it has, in the sections that it has. -/
structure Document where
  tolerance : Option Amount
  limits : Option LimitEntries
  /-- The section of the console with its filter. -/
  console : Option (Option String)

/-- The settings with another value in one place, if there is one. -/
def replaced {α : Type} (set : Configuration → α → Configuration) (value : Option α)
    (c : Configuration) : Configuration :=
  value.elim c (set c)

/-- The default settings, in which just the entries of the document are replaced. -/
def Document.configuration (d : Document) : Configuration :=
  default |> replaced withDefaultTolerance (d.tolerance.map Amount.value)
    |> replaced withMaxTextLength ((d.limits.bind LimitEntries.maxTextLength).map Fin.val)
    |> replaced withMaxItems ((d.limits.bind LimitEntries.maxItems).map Fin.val)
    |> replaced withFilter (d.console.bind id)

/-! ## Nodes that present documents -/

namespace Node

/-- The node presents a number: it is there, and stands for the double that is meant. -/
def PresentsAmount (v : Amount) (node : Node) : Prop :=
  ∃ s, node = .scalar s ∧ s.isNull = false ∧ s.number = some v.value

/-- The node presents a count. -/
def PresentsCount (n : Count) (node : Node) : Prop := ∃ s, node = .scalar s ∧ s.count = some n.val

/-- The node presents a text. -/
def PresentsText (t : String) (node : Node) : Prop := ∃ s, node = .scalar s ∧ s.text = some t

/-- The node presents a section with the entries, each under a key of its own. -/
inductive Lists : Entries → Node → Prop
  | table {entries : Entries} (hdistinct : (entries.map Prod.fst).Nodup) : Lists entries (.table entries)
  | bare {s : Scalar} (h : s.isBare = true) : Lists [] (.scalar s)

/-- The node presents what is said about the limits, among other entries. -/
def PresentsLimits (limits : LimitEntries) (node : Node) : Prop :=
  ∃ entries, node.Lists entries ∧
    Option.Rel PresentsCount limits.maxTextLength (entries.lookup "max_string_length") ∧
    Option.Rel PresentsCount limits.maxItems (entries.lookup "max_items")

/-- The node presents what is said about the console, among other entries. -/
def PresentsConsole (filter : Option String) (node : Node) : Prop :=
  ∃ entries, node.Lists entries ∧ Option.Rel PresentsText filter (entries.lookup "filter")

/-- The node presents a document. Entries under other keys may hold anything. -/
def Presents (d : Document) (node : Node) : Prop :=
  ∃ entries, node.Lists entries ∧
    Option.Rel PresentsAmount d.tolerance (entries.lookup "default_tolerance") ∧
    Option.Rel PresentsLimits d.limits (entries.lookup "render") ∧
    Option.Rel PresentsConsole d.console (entries.lookup "console")

end Node

/-- Which texts are written for a document, by the standards of the languages. -/
abbrev Standard := Language → Document → String → Prop

/-- The parser reads documents by their standards: as nodes that present them. -/
def Parser.Follows (parse : Parser) (standard : Standard) : Prop :=
  ∀ language d text, standard language d text → ∃ node, parse language text = some node ∧ node.Presents d

/-! ## Entries -/

section Entries

variable {node : Node} {entries : Entries}

theorem only?_of_nodup (h : (entries.map Prod.fst).Nodup) (key : String) :
    only? key entries = some (entries.lookup key) := by
  induction entries with
  | nil => rfl
  | cons entry rest ih =>
    obtain ⟨name, node⟩ := entry
    rw [List.map_cons, List.nodup_cons] at h
    by_cases hname : name = key
    · have hrest : rest.filter (fun e => e.1 == key) = [] := by
        rw [List.filter_eq_nil_iff]
        rintro ⟨other, value⟩ hmem hkey
        obtain rfl : other = key := by simpa using hkey
        exact h.1 (List.mem_map.mpr ⟨_, hmem, hname.symm⟩)
      simp [only?, hname, hrest]
    · have hkey : (key == name) = false := by simpa using Ne.symm hname
      have hhead : (name == key) = false := by simpa using hname
      rw [List.lookup_cons, hkey, ← ih h.2, only?, only?, List.filter_cons, hhead]
      rfl

theorem Node.Lists.nodup (h : node.Lists entries) : (entries.map Prod.fst).Nodup := by
  cases h with
  | table hdistinct => exact hdistinct
  | bare _ => exact List.nodup_nil

theorem Node.Lists.entries? (h : node.Lists entries) : entries? node = some entries := by
  cases h with
  | table _ => rfl
  | bare h => exact if_pos h

theorem valueAt?_of_rel {α β : Type} {presents : β → Node → Prop} {decode : Node → Option α}
    {value : β → α} (hdecode : ∀ b node, presents b node → decode node = some (value b)) (missing : α)
    {key : String} {said : Option β} (hlists : node.Lists entries)
    (h : Option.Rel presents said (entries.lookup key)) :
    valueAt? key missing decode entries = some (said.elim missing value) := by
  rw [valueAt?, only?_of_nodup hlists.nodup]
  generalize entries.lookup key = found at h
  cases h with
  | none => rfl
  | some h => exact hdecode _ _ h

theorem optionalNumber?_of_presents (v : Amount) (node : Node) (h : node.PresentsAmount v) :
    optionalNumber? node = some (some v.value) := by
  obtain ⟨s, rfl, hnull, hnumber⟩ := h
  rw [optionalNumber?, hnull, hnumber]
  rfl

theorem count?_of_presents (n : Count) (node : Node) (h : node.PresentsCount n) :
    count? node = some n.val := by
  obtain ⟨s, rfl, hcount⟩ := h
  have hlt : n.val < UInt64.size := lt_trans n.isLt (by decide)
  rw [count?, hcount]
  exact if_pos (decide_eq_true hlt)

theorem text?_of_presents (t : String) (node : Node) (h : node.PresentsText t) :
    text? node = some t := by
  obtain ⟨s, rfl, htext⟩ := h
  exact htext

theorem limits?_of_presents (limits : LimitEntries) (node : Node) (h : node.PresentsLimits limits) :
    limits? node = some ⟨limits.maxTextLength.elim 0 Fin.val,
      limits.maxItems.elim RenderLimits.default.maxItems Fin.val⟩ := by
  obtain ⟨entries, hlists, hlength, hitems⟩ := h
  have hlength := valueAt?_of_rel count?_of_presents 0 hlists hlength
  have hitems := valueAt?_of_rel count?_of_presents RenderLimits.default.maxItems hlists hitems
  simp only [limits?, hlists.entries?, hlength, hitems, Option.bind_eq_bind, Option.bind_some]

theorem filter?_of_presents (filter : Option String) (node : Node) (h : node.PresentsConsole filter) :
    filter? node = some (filter.elim defaultFilter id) := by
  obtain ⟨entries, hlists, hfilter⟩ := h
  simp only [filter?, hlists.entries?, Option.bind_eq_bind, Option.bind_some]
  exact valueAt?_of_rel text?_of_presents _ hlists hfilter

/-- **The configuration in a node** that presents a document is the default one with just the entries of
the document replaced. -/
theorem ofNode?_of_presents {d : Document} (h : node.Presents d) : ofNode? node = some d.configuration := by
  obtain ⟨entries, hlists, htolerance, hlimits, hconsole⟩ := h
  have htolerance := valueAt?_of_rel optionalNumber?_of_presents none hlists htolerance
  have hlimits := valueAt?_of_rel limits?_of_presents .default hlists hlimits
  have hconsole := valueAt?_of_rel filter?_of_presents defaultFilter hlists hconsole
  simp only [ofNode?, hlists.entries?, htolerance, hlimits, hconsole, Option.bind_eq_bind, Option.bind_some]
  -- What a section without an entry stands for is what the default settings have in its place.
  obtain ⟨_ | v, _ | ⟨_ | length, _ | items⟩, _ | _ | filter⟩ := d <;> rfl

end Entries

end Expectation.Configuration
