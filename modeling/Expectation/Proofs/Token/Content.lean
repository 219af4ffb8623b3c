import Mathlib.Algebra.Order.Group.Multiset
import Expectation.Proofs.Token.Balance

/-!
# The content of a resolved stream

Resolution loses nothing of a stream, invents nothing and leaves the operands in their order, whether the
stream is well-formed or not.

* `Constraint.leaves`, `Constraint.operators`: the nodes of a tree, the leaves and the inner ones;
* `Placed.leaves`, `Placed.operators`: what a token brings into the tree;
* `Stage.leaves_of_reaches`: the leaves stay in order throughout;
* `operatorTally`: the inner nodes are conserved;
* **`resolve_content`**: the nodes of the tree that a stream is resolved to.
-/

namespace Expectation

/-! ## The nodes of a tree -/

namespace Constraint

/-- The nodes without inner constraints, from left to right. -/
def leaves : Constraint → List Constraint
  | not c | items _ c | propertyIs _ c | attributeIs _ c | throwsMatching c => leaves c
  | and a b | or a b => leaves a ++ leaves b
  | c => [c]

/-- The operators that make the other nodes, from left to right. -/
def operators : Constraint → List Operator
  | not c => .unary .not :: operators c
  | items q c => .unary (.quantified q) :: operators c
  | and a b => operators a ++ .connective .and :: operators b
  | or a b => operators a ++ .connective .or :: operators b
  | propertyIs name c => .selector (.property name) :: operators c
  | attributeIs name c => .selector (.attribute name) :: operators c
  | throwsMatching c => .selector .throws :: operators c
  | _ => []

theorem nodeCount_eq (c : Constraint) : c.nodeCount = c.leaves.length + c.operators.length := by
  induction c with
  | not c ih | items q c ih | propertyIs name c ih | attributeIs name c ih | throwsMatching c ih =>
    simp only [nodeCount, leaves, operators, List.length_cons, ih]
    omega
  | and a b iha ihb | or a b iha ihb =>
    simp only [nodeCount, leaves, operators, List.length_append, List.length_cons, iha, ihb]
    omega
  | _ => rfl

end Constraint

section Apply

variable (u : Unary) (k : Connective) (s : Selector) (a b c : Constraint)

@[simp] theorem Unary.leaves_apply : (u.apply c).leaves = c.leaves := by cases u <;> rfl

@[simp] theorem Connective.leaves_apply : (k.apply a b).leaves = a.leaves ++ b.leaves := by
  cases k <;> rfl

@[simp] theorem Selector.leaves_apply : (s.apply c).leaves = c.leaves := by cases s <;> rfl

@[simp] theorem Selector.leaves_alone : s.alone.leaves = [s.alone] := by cases s <;> rfl

@[simp] theorem Unary.operators_apply : (u.apply c).operators = .unary u :: c.operators := by
  cases u <;> rfl

@[simp] theorem Connective.operators_apply :
    (k.apply a b).operators = a.operators ++ .connective k :: b.operators := by
  cases k <;> rfl

@[simp] theorem Selector.operators_apply : (s.apply c).operators = .selector s :: c.operators := by
  cases s <;> rfl

@[simp] theorem Selector.operators_alone : s.alone.operators = [] := by cases s <;> rfl

end Apply

/-! ## The nodes that a token brings -/

namespace Placed

/-- The leaves that a token brings: those of an operand, and a selector that stands alone. -/
def leaves : Placed → List Constraint
  | ⟨.operand c, _⟩ => c.leaves
  | ⟨.operator (.selector s), f⟩ => if f.endsOperand then [s.alone] else []
  | ⟨.operator _, _⟩ => []

/-- The operators that a token brings: those in an operand, and itself where it has operands. -/
def operators : Placed → List Operator
  | ⟨.operand c, _⟩ => c.operators
  | ⟨.operator op, f⟩ => if op.standsAlone f then [] else [op]

theorem length_operator (op : Operator) (f : Follower) :
    (leaves ⟨.operator op, f⟩).length + (operators ⟨.operator op, f⟩).length = 1 := by
  cases op with
  | unary u | connective k => rfl
  | selector s => cases f <;> rfl

theorem leaves_of_not_standsAlone {op : Operator} {f : Follower} (h : op.standsAlone f = false) :
    leaves ⟨.operator op, f⟩ = [] := by
  cases op with
  | unary u | connective k => rfl
  | selector s => exact if_neg (Bool.eq_false_iff.mp h)

end Placed

/-! ## The order of the leaves -/

namespace Stage

/-- The leaves of the operands so far and of the tokens to come. -/
def leaves (s : Stage) : List Constraint :=
  s.operands.reverse.flatMap Constraint.leaves ++ (placed s.tokens).flatMap Placed.leaves

/-- No selector that stands alone is kept waiting, which would let later operands overtake it. -/
def NoneAloneWaits (s : Stage) : Prop := ∀ p ∈ s.waiting, p.operator.standsAlone p.follower = false

variable {s t : Stage} {p : Pending} {operands operands' : List Constraint}

theorem NoneAloneWaits.moves (h : s.NoneAloneWaits) (hmove : s.Moves t) : t.NoneAloneWaits := by
  cases hmove with
  | operand c | standsAlone halone hhead => exact h
  | waits halone hhead => exact List.forall_mem_cons.mpr ⟨halone, h⟩
  | reduces hforces hreduces => exact fun p hp => h p (List.mem_cons_of_mem _ hp)

theorem leaves_of_reduces (h : p.Reduces operands operands')
    (halone : p.operator.standsAlone p.follower = false) :
    operands'.reverse.flatMap Constraint.leaves = operands.reverse.flatMap Constraint.leaves := by
  cases h with
  | alone s hends operands =>
    -- its leaf would come after those of the operands that were taken in meanwhile
    exact absurd hends (Bool.eq_false_iff.mp halone)
  | unary u f c rest | connective k f left right rest | selector s hends c rest => simp

theorem leaves_of_moves (h : s.NoneAloneWaits) (hmove : s.Moves t) : s.leaves = t.leaves := by
  cases hmove with
  | operand c => simp [leaves, placed, Placed.leaves]
  | waits halone hhead => simp [leaves, placed, Placed.leaves_of_not_standsAlone halone]
  | standsAlone halone hhead => simp [leaves, placed, Placed.leaves, halone]
  | reduces hforces hreduces =>
    have halone := h _ List.mem_cons_self
    simp only [leaves, leaves_of_reduces hreduces halone]

/-- **The leaves stay in order throughout.** -/
theorem leaves_of_reaches (h : s.NoneAloneWaits) (hreach : s.Reaches t) : s.leaves = t.leaves := by
  induction hreach using Relation.ReflTransGen.head_induction_on with
  | refl => rfl
  | head hmove _ ih => exact (leaves_of_moves h hmove).trans (ih (h.moves hmove))

end Stage

/-! ## The inner nodes -/

/-- The tally of the operators at the inner nodes, in any order. -/
def operatorTally : Tally (Multiset Operator) where
  weight c := c.operators
  charge op := {op}
  unary u c := by
    rw [Unary.operators_apply]
    rfl
  connective k a b := by
    rw [Connective.operators_apply, Multiset.coe_add, Multiset.singleton_add, Multiset.cons_coe,
      Multiset.coe_eq_coe]
    exact List.perm_middle
  selector s c := by
    rw [Selector.operators_apply]
    rfl

theorem adds_operatorTally (t : Placed) : operatorTally.adds t = t.operators := by
  obtain ⟨t, f⟩ := t
  match t with
  | .operand c | .operator (.unary u) | .operator (.connective k) => rfl
  | .operator (.selector s) =>
    cases halone : f.endsOperand <;>
    simp [Tally.adds, Placed.operators, Operator.standsAlone, operatorTally, halone]

theorem sum_adds_operatorTally (tokens : List Token) :
    ((placed tokens).map operatorTally.adds).sum =
      ((placed tokens).flatMap Placed.operators : Multiset Operator) := by
  induction placed tokens with
  | nil => rfl
  | cons t rest ih =>
    rw [List.map_cons, List.sum_cons, ih, adds_operatorTally, Multiset.coe_add, List.flatMap_cons]

/-! ## The tree of a stream -/

/-- The constraint of an operand. -/
def Token.operand? : Token → Option Constraint
  | operand c => some c
  | operator _ => none

section Streams

variable {tokens : List Token} {c : Constraint}

theorem length_flatMap_placed (tokens : List Token) :
    ((placed tokens).flatMap Placed.leaves).length +
        ((placed tokens).flatMap Placed.operators).length =
      ((tokens.filterMap Token.operand?).map Constraint.nodeCount).sum +
        tokens.countP (!Token.isOperand ·) := by
  induction tokens with
  | nil => rfl
  | cons t tokens ih =>
    simp only [placed, List.flatMap_cons, List.length_append, List.filterMap_cons, List.countP_cons]
    cases t with
    | operand c =>
      simp only [Placed.leaves, Placed.operators, Token.operand?, Token.isOperand_operand,
        List.map_cons, List.sum_cons, c.nodeCount_eq, Bool.not_true, Bool.false_eq_true, if_false]
      omega
    | operator op =>
      have hone := Placed.length_operator op (.of tokens)
      simp only [Token.operand?, Token.isOperand_operator, Bool.not_false, if_true]
      omega

theorem leaves_of_resolve (h : resolve tokens = .ok c) :
    c.leaves = (placed tokens).flatMap Placed.leaves := by
  have hleaves := Stage.leaves_of_reaches (fun p hp => absurd hp List.not_mem_nil)
    (reaches_of_resolve_eq_ok h)
  simpa [Stage.leaves, placed] using hleaves.symm

theorem operators_of_resolve (h : resolve tokens = .ok c) :
    c.operators.Perm ((placed tokens).flatMap Placed.operators) := by
  have hsum := operatorTally.sum_of_reaches (reaches_of_resolve_eq_ok h)
  rw [sum_adds_operatorTally, List.map_singleton, List.sum_singleton] at hsum
  exact Multiset.coe_eq_coe.mp hsum

theorem token_mem_of_mem_placed {t : Placed} (h : t ∈ placed tokens) : t.token ∈ tokens := by
  induction tokens with
  | nil => cases h
  | cons u tokens ih =>
    rcases List.mem_cons.mp h with rfl | hmem
    · exact List.mem_cons_self
    · exact List.mem_cons_of_mem _ (ih hmem)

theorem mem_leaves_of_resolve (h : resolve tokens = .ok c) {leaf : Constraint}
    (hleaf : leaf ∈ c.leaves) :
    (∃ d, .operand d ∈ tokens ∧ leaf ∈ d.leaves) ∨ ∃ s : Selector, leaf = s.alone := by
  rw [leaves_of_resolve h] at hleaf
  obtain ⟨⟨t, f⟩, hplaced, hmem⟩ := List.mem_flatMap.mp hleaf
  have ht : t ∈ tokens := token_mem_of_mem_placed hplaced
  match t with
  | .operand d => exact .inl ⟨d, ht, hmem⟩
  | .operator (.unary u) | .operator (.connective k) => cases hmem
  | .operator (.selector s) =>
    cases hends : f.endsOperand with
    | true =>
      rw [Placed.leaves, if_pos hends] at hmem
      exact .inr ⟨s, List.mem_singleton.mp hmem⟩
    | false =>
      rw [Placed.leaves, if_neg (by simp [hends])] at hmem
      cases hmem

/-- **The tree of a stream has the content of the stream.** Its leaves are those of the operands and
the selectors that stand alone, in the order of the stream. It has as many nodes as the operands
together, and one for every operator. Its inner nodes are those of the operands and the operators that
do not stand alone, each once. -/
theorem resolve_content (h : resolve tokens = .ok c) :
    c.leaves = (placed tokens).flatMap Placed.leaves ∧
    c.nodeCount = ((tokens.filterMap Token.operand?).map Constraint.nodeCount).sum +
      tokens.countP (!Token.isOperand ·) ∧
    c.operators.Perm ((placed tokens).flatMap Placed.operators) := by
  have hleaves := leaves_of_resolve h
  have hoperators := operators_of_resolve h
  refine ⟨hleaves, ?_, hoperators⟩
  rw [c.nodeCount_eq, hleaves, hoperators.length_eq, length_flatMap_placed]

end Streams

/-- A malformed stream that stands for a constraint, in which operators come after their operands. -/
theorem resolve_content_operators_last :
    let tokens : List Token := [.operand .isNull, .operand (.items .all .isTrue),
      .operator (.unary .not), .operator (.selector .throws), .operator (.connective .or),
      .operator (.connective .and)]
    let c : Constraint := .or .isNull (.and (.items .all .isTrue) (.not .throws))
    resolve tokens = .ok c ∧ c.leaves = [.isNull, .isTrue, .throws] ∧ c.nodeCount = 3 + 4 ∧
      c.operators.Perm [.unary (.quantified .all), .unary .not, .connective .or, .connective .and] := by
  intro tokens c
  have hresolve : resolve tokens = .ok c := rfl
  exact ⟨hresolve, resolve_content hresolve⟩

end Expectation
