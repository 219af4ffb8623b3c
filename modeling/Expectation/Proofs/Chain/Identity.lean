import Expectation.Proofs.Chain.LastToken
import Expectation.Proofs.Value.Equality

/-!
# Identity of resolved trees

Identity compares the doubles in values by their bits, so that a value is always identical to itself, but
the amounts of tolerances as numbers, of which a NaN is equal to none. So what is resolved twice comes to
the same tree unless a tolerance in it has a NaN for its amount.

* `Value.same_self`: a value is identical to itself;
* `Constraint.tolerances`, `Constraint.same_self_iff`: a tree is, if no amount in it is a NaN;
* `sameResult`, `sameResult_self_iff`: results of resolution;
* `tolerances_of_resolve`: the tolerances in a tree are those of the operands;
* `Chain.amounts_ofWords`: their amounts are those that the calls of the chain gave;
* **`resolve_same_self_iff`**: trees, streams and chains.
-/

namespace Expectation

/-- **A value is identical to itself**, whatever the bits of its doubles. -/
theorem Value.same_self (v : Value) : v.same v = true := by
  induction v using Value.items_induction with
  | list items ih => exact Value.sameItems_iff.mpr (List.forall₂_same.mpr ih)
  | other v hlist =>
    cases v with
    | list items => cases hlist
    | float x => exact decide_eq_true rfl
    | null => rfl
    | bool _ | int _ | text _ | object _ | fault _ | code _ => exact beq_self_eq_true _

/-! ## Trees -/

namespace Constraint

/-- The tolerance of an equality, if it has one. -/
def tolerance? : Constraint → Option Tolerance
  | equal _ t _ => t
  | _ => none

/-- The tolerances of the equalities in the tree, from left to right. -/
def tolerances (c : Constraint) : List Tolerance := c.leaves.filterMap tolerance?

theorem tolerance_beq_self_iff (t : Tolerance) : (t == t) = true ↔ t.amount.isNaN = false := by
  have hunfold : (t == t) = (t.amount.eq t.amount && decide (t.mode = t.mode)) := rfl
  rw [hunfold, decide_eq_true rfl, Bool.and_true, Binary64.eq_iff]
  simp

/-- **A tree is the same as itself** just if no amount of a tolerance in it is a NaN. -/
theorem same_self_iff (c : Constraint) :
    c.same c = true ↔ ∀ t ∈ c.tolerances, t.amount.isNaN = false := by
  have hvalue : ∀ v : Value, (v == v) = true := Value.same_self
  induction c with
  | equal e t i =>
    cases t with
    | none => simp [same, tolerances, leaves, tolerance?, hvalue]
    | some t =>
      simpa [same, tolerances, leaves, tolerance?, hvalue] using tolerance_beq_self_iff t
  | and a b iha ihb | or a b iha ihb =>
    rw [same, Bool.and_eq_true, tolerances, leaves, List.filterMap_append, List.forall_mem_append]
    exact and_congr iha ihb
  | not c ih | throwsMatching c ih => exact ih
  | items _ c ih =>
    rw [same, decide_eq_true rfl, Bool.true_and]
    exact ih
  | propertyIs _ c ih | attributeIs _ c ih =>
    rw [same, beq_self_eq_true, Bool.true_and]
    exact ih
  | _ => simp [same, tolerances, leaves, tolerance?, hvalue]

end Constraint

/-! ## Streams -/

/-- The results are the same: one error, or the same tree. -/
def sameResult : Except BuildError Constraint → Except BuildError Constraint → Bool
  | .ok c, .ok d => c == d
  | .error e, .error f => decide (e = f)
  | _, _ => false

theorem sameResult_self_iff (result : Except BuildError Constraint) :
    sameResult result result = true ↔ ∀ root, result = .ok root → root.same root = true := by
  cases result with
  | error e => exact iff_of_true (decide_eq_true rfl) nofun
  | ok c => exact ⟨fun h root heq => Except.ok.inj heq ▸ h, fun h => h c rfl⟩

/-- The tolerances that a token brings, which are those in an operand. -/
def Token.tolerances : Token → List Tolerance
  | operand c => c.tolerances
  | operator _ => []

section Streams

variable {tokens : List Token} {root : Constraint}

theorem Placed.filterMap_leaves (t : Placed) :
    t.leaves.filterMap Constraint.tolerance? = t.token.tolerances := by
  obtain ⟨t, f⟩ := t
  match t with
  | .operand c | .operator (.unary u) | .operator (.connective k) => rfl
  | .operator (.selector s) =>
    rw [Placed.leaves]
    split
    · cases s <;> rfl
    · rfl

/-- **The tolerances in a resolved tree** are those of the operands, in order. -/
theorem tolerances_of_resolve (h : resolve tokens = .ok root) :
    root.tolerances = tokens.flatMap Token.tolerances := by
  rw [Constraint.tolerances, leaves_of_resolve h, List.filterMap_flatMap]
  simp only [Placed.filterMap_leaves]
  clear h
  induction tokens with
  | nil => rfl
  | cons t tokens ih => rw [placed, List.flatMap_cons, List.flatMap_cons, ih]

theorem forall_tolerances_iff {condition : Tolerance → Prop} :
    (∀ t ∈ tokens.flatMap Token.tolerances, condition t) ↔
      ∀ c, .operand c ∈ tokens → ∀ t ∈ c.tolerances, condition t := by
  simp only [List.mem_flatMap]
  constructor
  · exact fun h c hc t ht => h t ⟨_, hc, ht⟩
  · rintro h t ⟨token, htoken, ht⟩
    cases token with
    | operand c => exact h c htoken t ht
    | operator op => cases ht

end Streams

/-! ## Chains -/

namespace Chain

/-- The amount of the tolerance that a call gives. -/
def Word.amount? : Word → Option Binary64
  | within amount => some amount
  | _ => none

theorem Word.amount?_eq_some_iff {w : Word} {amount : Binary64} :
    w.amount? = some amount ↔ w = .within amount := by
  cases w <;> simp [amount?]

/-- The amounts of the tolerances in a chain, in order. -/
def amounts (chain : Chain) : List Binary64 :=
  (chain.tokens.flatMap Token.tolerances).map Tolerance.amount

section Amounts

variable {chain chain' : Chain} {w : Word} {step : Step} {c c' : Constraint}

theorem amounts_append (h : chain.Admits step) (token : Token) (next : State) :
    (chain.append step token next).amounts =
      chain.amounts ++ token.tolerances.map Tolerance.amount := by
  rw [amounts, tokens, append_of_permits h.error_eq_none h.permits, List.reverse_cons]
  simp [amounts, tokens]

theorem ChangesLast.amounts_eq (h : ChangesLast chain chain' c c') {more : List Binary64}
    (hgain : c'.tolerances.map Tolerance.amount = c.tolerances.map Tolerance.amount ++ more) :
    chain'.amounts = chain.amounts ++ more := by
  obtain ⟨before, htokens, htokens'⟩ := h
  rw [amounts, amounts, htokens, htokens']
  simp [Token.tolerances, hgain]

/-- **A legal call adds the amount that it gives** to those of the chain, and changes none of these. -/
theorem amounts_extend (herror : chain.error = none)
    (hlast : chain.state.Describes chain.reversed.head?) (hallows : chain.state.allows w = true) :
    (chain.extend w).amounts = chain.amounts ++ w.amount?.toList := by
  have hadmits (step : Step) (hstep : w.stepIn chain.state = some step) : chain.Admits step := by
    rw [State.allows, hstep] at hallows
    exact ⟨herror, hallows⟩
  cases w with
  | within amount =>
    obtain ⟨v, h⟩ := changesLast_of_within hlast (hadmits _ rfl) amount
    exact h.amounts_eq rfl
  | percent =>
    obtain ⟨v, amount, h⟩ := changesLast_of_percent hlast (hadmits _ rfl)
    exact h.amounts_eq rfl
  | ignoreCase =>
    rcases changesLast_of_ignoreCase hlast (hadmits _ rfl) with ⟨v, h⟩ | ⟨t, p, h⟩ <;>
    exact h.amounts_eq rfl
  | joined =>
    rw [Chain.extend]
    split
    · rename_i hcloses
      exact amounts_append (hadmits .connective (if_pos hcloses)) _ _
    · exact (List.append_nil _).symm
  | _ => exact amounts_append (hadmits _ rfl) _ _

/-- **The amounts in a legal chain** are those that its calls gave, in order. -/
theorem amounts_ofWords {words : List Word} (h : AllLegal words) :
    (ofWords words).amounts = words.filterMap Word.amount? := by
  induction words using List.reverseRecOn with
  | nil => rfl
  | append_singleton words w ih =>
    obtain ⟨hwords, hallows⟩ := allLegal_append_singleton.mp h
    rw [ofWords_append_singleton,
      amounts_extend (error_ofWords_of_allLegal hwords) (describes_ofWords words) hallows, ih hwords,
      List.filterMap_append]
    cases hamount : w.amount? <;> simp [hamount]

end Amounts

section Resolve

variable {chain : Chain} {root : Constraint}

theorem error_eq_none_of_resolve (h : chain.resolve = .ok root) : chain.error = none := by
  cases herror : chain.error with
  | none => rfl
  | some e => rw [resolve_of_error herror] at h; cases h

/-- **The amounts in the tree of a chain** are those that its calls gave. -/
theorem amounts_of_resolve_ofWords {words : List Word} (h : (ofWords words).resolve = .ok root) :
    root.tolerances.map Tolerance.amount = words.filterMap Word.amount? := by
  rw [tolerances_of_resolve (resolve_tokens_of_resolve h)]
  exact amounts_ofWords (allLegal_iff.mpr (error_eq_none_of_resolve h))

end Resolve

end Chain

/-! ## Resolution repeated -/

section Repeated

open Chain

/-- **Resolution repeated** comes to the same result, unless a tolerance has a NaN for its amount. A tree
is the same as itself just if no amount in it is a NaN, whatever else its nodes hold. The results of a
stream, and of a chain however it was put together, are the same just if there is an error or no operand
has such an amount, and for a chain of calls just if there is an error or no call gave one. -/
theorem resolve_same_self_iff (c : Constraint) (tokens : List Token) (chain : Chain)
    (words : List Word) :
    ((c == c) = true ↔ ∀ t ∈ c.tolerances, t.amount.isNaN = false) ∧
    (sameResult (resolve tokens) (resolve tokens) = true ↔
      ∀ root, resolve tokens = .ok root →
        ∀ d, .operand d ∈ tokens → ∀ t ∈ d.tolerances, t.amount.isNaN = false) ∧
    (sameResult chain.resolve chain.resolve = true ↔
      ∀ root, chain.resolve = .ok root →
        ∀ d, .operand d ∈ chain.tokens → ∀ t ∈ d.tolerances, t.amount.isNaN = false) ∧
    (sameResult (ofWords words).resolve (ofWords words).resolve = true ↔
      ∀ root, (ofWords words).resolve = .ok root →
        ∀ amount, .within amount ∈ words → amount.isNaN = false) := by
  refine ⟨c.same_self_iff, ?_, ?_, ?_⟩
  · rw [sameResult_self_iff]
    refine forall₂_congr fun root hroot => ?_
    rw [root.same_self_iff, tolerances_of_resolve hroot, forall_tolerances_iff]
  · rw [sameResult_self_iff]
    refine forall₂_congr fun root hroot => ?_
    rw [root.same_self_iff, tolerances_of_resolve (resolve_tokens_of_resolve hroot),
      forall_tolerances_iff]
  · rw [sameResult_self_iff]
    refine forall₂_congr fun root hroot => ?_
    have hamounts : (∀ t ∈ root.tolerances, t.amount.isNaN = false) ↔
        ∀ amount ∈ root.tolerances.map Tolerance.amount, amount.isNaN = false := by
      simp only [List.forall_mem_map]
    rw [root.same_self_iff, hamounts, amounts_of_resolve_ofWords hroot]
    simp only [List.mem_filterMap, Word.amount?_eq_some_iff, exists_eq_right]

/-- An equality within a NaN, as an operand and by calls: either resolves, and to a tree that is not the
same as itself, although the NaN as a value is. -/
theorem resolve_not_same_self :
    let c : Constraint := .equal (.float .nan) (some ⟨.nan, .linear⟩) false
    let words : List Word := [.equalTo (.float .nan), .within .nan]
    (Value.float .nan == Value.float .nan) = true ∧
    (resolve [.operand c] = .ok c ∧ sameResult (resolve [.operand c]) (resolve [.operand c]) = false) ∧
    ((ofWords words).resolve = .ok c ∧
      sameResult (ofWords words).resolve (ofWords words).resolve = false) := by
  intro c words
  have hsame : (c == c) = false := by decide
  have hstream : resolve [.operand c] = .ok c := rfl
  have hchain : (ofWords words).resolve = .ok c := rfl
  refine ⟨by decide, ⟨hstream, ?_⟩, hchain, ?_⟩
  · rw [hstream]
    exact hsame
  · rw [hchain]
    exact hsame

end Repeated

end Expectation
