import Mathlib.Algebra.BigOperators.Group.List.Basic
import Mathlib.Tactic.Abel
import Expectation.Proofs.Token.Course

/-!
# The balance of operands

Every operand of a stream counts one, so does every selector that stands alone, and every connective
takes one away. As long as no operator fails, this number does not change while operands are reduced.
The argument is the same for every way to weigh constraints and operators.

* `Placed`, `placed`: the tokens of a stream in their places;
* `Tally`, `Tally.sum_of_reaches`: what is weighed is conserved;
* `balance`, `length_eq_balance`: the number of operands that are left;
* **`resolve_balance`**: the outcome of every stream, by its balance.
-/

namespace Expectation

/-! ## Tokens in their places -/

/-- A token and the kind of the token after it. -/
structure Placed where
  token : Token
  follower : Follower

/-- The tokens of a stream, each with what follows it. -/
def placed : List Token → List Placed
  | [] => []
  | t :: rest => ⟨t, .of rest⟩ :: placed rest

/-- The token is a selector that stands alone in its place. -/
def Placed.standsAlone : Placed → Bool
  | ⟨.operand _, _⟩ => false
  | ⟨.operator op, f⟩ => op.standsAlone f

/-- A waiting operator in the place that it was found in. -/
def Pending.placed (p : Pending) : Placed := ⟨.operator p.operator, p.follower⟩

/-! ## Tallies -/

/-- A way to weigh constraints and to charge for operators: what an operator makes of its operands
weighs as much as they do, and the charge for the operator. -/
structure Tally (M : Type) [AddCommMonoid M] where
  weight : Constraint → M
  charge : Operator → M
  unary (u : Unary) (c : Constraint) : weight (u.apply c) = charge (.unary u) + weight c
  connective (k : Connective) (a b : Constraint) :
    weight (k.apply a b) = charge (.connective k) + (weight a + weight b)
  selector (s : Selector) (c : Constraint) : weight (s.apply c) = charge (.selector s) + weight c

namespace Tally

variable {M : Type} [AddCommMonoid M] (τ : Tally M)

/-- What a token adds in its place. -/
def adds : Placed → M
  | ⟨.operand c, _⟩ => τ.weight c
  | ⟨.operator (.selector s), f⟩ => if f.endsOperand then τ.weight s.alone else τ.charge (.selector s)
  | ⟨.operator op, _⟩ => τ.charge op

/-- All that is there at a stage: the operands, the operators that wait and the tokens to come. -/
def total (s : Stage) : M :=
  (s.operands.map τ.weight).sum + (s.waiting.map fun p => τ.adds p.placed).sum +
    ((placed s.tokens).map τ.adds).sum

variable {p : Pending} {operands operands' : List Constraint} {s t : Stage} {tokens : List Token}

theorem sum_of_reduces (h : p.Reduces operands operands') :
    (operands'.map τ.weight).sum = τ.adds p.placed + (operands.map τ.weight).sum := by
  cases h with
  | unary u f c rest =>
    simp only [Pending.placed, adds, List.map_cons, List.sum_cons, τ.unary]
    abel
  | connective k f left right rest =>
    simp only [Pending.placed, adds, List.map_cons, List.sum_cons, τ.connective]
    abel
  | alone s h operands =>
    simp only [Pending.placed, adds, h, if_true, List.map_cons, List.sum_cons]
  | selector s h c rest =>
    simp only [Pending.placed, adds, h, Bool.false_eq_true, if_false, List.map_cons, List.sum_cons,
      τ.selector]
    abel

/-- **One step changes nothing in total.** -/
theorem total_eq_of_moves (h : s.Moves t) : τ.total s = τ.total t := by
  cases h with
  | operand c =>
    simp only [total, placed, List.map_cons, List.sum_cons, adds]
    abel
  | waits halone hhead =>
    simp only [total, placed, List.map_cons, List.sum_cons, Pending.placed]
    abel
  | standsAlone halone hhead =>
    simp only [total, placed, List.map_cons, List.sum_cons, adds, halone, if_true]
    abel
  | reduces hforces hreduces =>
    simp only [total, List.map_cons, List.sum_cons, τ.sum_of_reduces hreduces]
    abel

theorem total_eq_of_reaches (h : s.Reaches t) : τ.total s = τ.total t := by
  induction h with
  | refl => rfl
  | tail _ hmove ih => exact ih.trans (τ.total_eq_of_moves hmove)

/-- **What is left at the end weighs as much as the stream.** -/
theorem sum_of_reaches (h : Stage.Reaches ⟨tokens, [], []⟩ ⟨[], [], operands⟩) :
    (operands.map τ.weight).sum = ((placed tokens).map τ.adds).sum := by
  have htotal := τ.total_eq_of_reaches h
  simpa [total, placed] using htotal.symm

end Tally

/-! ## The balance of a stream -/

/-- The token is an operand. -/
def Token.isOperand : Token → Bool
  | operand _ => true
  | operator _ => false

@[simp] theorem Token.isOperand_operand (c : Constraint) : (operand c).isOperand = true := rfl

@[simp] theorem Token.isOperand_operator (op : Operator) : (operator op).isOperand = false := rfl

/-- The token is a connective. -/
def Token.isConnective : Token → Bool
  | operator (.connective _) => true
  | _ => false

/-- The operands of a stream and its selectors that stand alone, less its connectives. -/
def balance (tokens : List Token) : ℤ :=
  tokens.countP Token.isOperand + (placed tokens).countP Placed.standsAlone -
    tokens.countP Token.isConnective

/-- The tally that counts constraints. -/
def operandTally : Tally ℤ where
  weight _ := 1
  charge
    | .connective _ => -1
    | _ => 0
  unary _ _ := rfl
  connective _ _ _ := rfl
  selector _ _ := rfl

theorem adds_operandTally (t : Placed) :
    operandTally.adds t = (if t.token.isOperand then 1 else 0) + (if t.standsAlone then 1 else 0) -
      (if t.token.isConnective then 1 else 0) := by
  obtain ⟨t, f⟩ := t
  match t with
  | .operand c | .operator (.unary u) | .operator (.connective k) => rfl
  | .operator (.selector s) => cases f <;> rfl

theorem balance_cons (t : Token) (tokens : List Token) :
    balance (t :: tokens) = operandTally.adds ⟨t, .of tokens⟩ + balance tokens := by
  simp only [balance, placed, List.countP_cons, adds_operandTally]
  push_cast
  abel

theorem sum_adds_eq_balance (tokens : List Token) :
    ((placed tokens).map operandTally.adds).sum = balance tokens := by
  induction tokens with
  | nil => rfl
  | cons t tokens ih => rw [placed, List.map_cons, List.sum_cons, ih, balance_cons]

/-! ## The outcome of a stream -/

section Streams

variable {tokens : List Token} {operands : List Constraint}

/-- **The balance is the number of operands at the end.** -/
theorem length_eq_balance (h : Stage.Reaches ⟨tokens, [], []⟩ ⟨[], [], operands⟩) :
    (operands.length : ℤ) = balance tokens := by
  have hsum := operandTally.sum_of_reaches h
  rw [sum_adds_eq_balance] at hsum
  simpa [operandTally] using hsum

theorem ne_nil_of_reaches (hne : tokens ≠ [])
    (h : Stage.Reaches ⟨tokens, [], []⟩ ⟨[], [], operands⟩) : operands ≠ [] := by
  rcases h.cases_tail with heq | ⟨s, -, hmove⟩
  · exact absurd (congrArg Stage.tokens heq).symm hne
  · exact hmove.ne_nil

theorem resolve_eq_emptyExpression_iff :
    resolve tokens = .error .emptyExpression ↔ tokens = [] := by
  refine ⟨fun h => ?_, fun h => h ▸ rfl⟩
  by_contra hne
  rcases resolve_cases hne with ⟨operands, -, hresolve⟩ | ⟨operator, hresolve, -⟩
  · rw [h] at hresolve
    rcases outcome_cases operands with ⟨c, -, hok⟩ | ⟨-, herror⟩
    · exact absurd (hresolve.trans hok) (by simp)
    · exact absurd (hresolve.trans herror) (by simp)
  · exact absurd (h.symm.trans hresolve) (by simp)

end Streams

/-- **The outcome of a stream respects its balance.** Only the empty stream is an empty expression. Any
other one stands for a constraint, and then its balance is one, or leaves as many operands unreduced as
its balance says, two at least, or has an operator that finds too few operands, and then none is left.
The last is what happens where the balance is not positive. -/
theorem resolve_balance (tokens : List Token) :
    (resolve tokens = .error .emptyExpression ↔ tokens = []) ∧
    (tokens ≠ [] →
      ((∃ c, resolve tokens = .ok c) ∨ (∃ n, resolve tokens = .error (.unreduced n)) ∨
        ∃ operator, resolve tokens = .error (.operandUnderflow operator)) ∧
      (∀ c, resolve tokens = .ok c → balance tokens = 1) ∧
      (∀ n, resolve tokens = .error (.unreduced n) → (n : ℤ) = balance tokens ∧ 2 ≤ n) ∧
      (balance tokens ≤ 0 → ∃ operator, resolve tokens = .error (.operandUnderflow operator)) ∧
      ∀ operator, resolve tokens = .error (.operandUnderflow operator) →
        (Resolution.of tokens).bench.operands = []) := by
  refine ⟨resolve_eq_emptyExpression_iff, fun hne => ?_⟩
  rcases resolve_cases hne with ⟨operands, hreach, hresolve⟩ | ⟨operator, hresolve, hbench⟩
  · have hbalance := length_eq_balance hreach
    have hpos := List.length_pos_iff.mpr (ne_nil_of_reaches hne hreach)
    rcases outcome_cases operands with ⟨c, rfl, hok⟩ | ⟨hlength, herror⟩
    · rw [hresolve, hok, ← hbalance]
      exact ⟨.inl ⟨c, rfl⟩, fun _ _ => rfl, by simp, by simp, by simp⟩
    · rw [hresolve, herror, ← hbalance]
      refine ⟨.inr (.inl ⟨_, rfl⟩), by simp, fun n hn => ?_, by omega, by simp⟩
      obtain rfl : operands.length = n := by simpa using hn
      -- none cannot be left at the end, and one would be the constraint of the stream
      exact ⟨rfl, by omega⟩
  · rw [hresolve]
    exact ⟨.inr (.inr ⟨operator, rfl⟩), by simp, by simp, fun _ => ⟨operator, rfl⟩, fun _ _ => hbench⟩

/-- Four malformed streams: one that stands for a constraint all the same, one that leaves two
operands, one without a positive balance, and one in which an operator comes too early. -/
theorem resolve_balance_malformed :
    let accepted : List Token :=
      [.operand .isNull, .operator (.selector (.property "name")), .operator (.connective .and),
        .operator (.connective .or), .operand .isTrue]
    let c : Constraint := .or (.and .isNull (.hasProperty "name")) .isTrue
    let left : List Token := [.operand .isNull, .operator (.unary .not), .operand .isTrue]
    let short : List Token := [.operator (.connective .or), .operator (.selector .throws)]
    let early : List Token :=
      [.operator (.unary .not), .operator (.connective .and), .operand .isNull, .operand .isTrue]
    (accepted ≠ [] ∧ resolve accepted = .ok c ∧ balance accepted = 1) ∧
    (left ≠ [] ∧ resolve left = .error (.unreduced 2) ∧ ((2 : ℕ) : ℤ) = balance left ∧ 2 ≤ 2) ∧
    (short ≠ [] ∧ balance short ≤ 0 ∧
      ∃ operator, resolve short = .error (.operandUnderflow operator)) ∧
    (early ≠ [] ∧ resolve early = .error (.operandUnderflow "not") ∧
      (Resolution.of early).bench.operands = []) := by
  intro accepted c left short early
  have haccepted : accepted ≠ [] := List.cons_ne_nil _ _
  have hleft : left ≠ [] := List.cons_ne_nil _ _
  have hshort : short ≠ [] := List.cons_ne_nil _ _
  have hearly : early ≠ [] := List.cons_ne_nil _ _
  have hnone : balance short ≤ 0 := by decide
  exact ⟨⟨haccepted, rfl, ((resolve_balance accepted).2 haccepted).2.1 c rfl⟩,
    ⟨hleft, rfl, ((resolve_balance left).2 hleft).2.2.1 2 rfl⟩,
    ⟨hshort, hnone, ((resolve_balance short).2 hshort).2.2.2.1 hnone⟩,
    ⟨hearly, rfl, ((resolve_balance early).2 hearly).2.2.2.2 "not" rfl⟩⟩

end Expectation
