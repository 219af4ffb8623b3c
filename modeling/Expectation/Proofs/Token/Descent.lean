import Expectation.Proofs.Token.Grammar
import Expectation.Proofs.Token.Machine

/-!
# Resolution agrees with recursive descent

While recursive descent reads a tree at a tier, the machine turns the same tokens into one more operand.
It needs two facts about the surroundings: no operator that waits may bind before a connective of the
tier (`Shields`), and the token after what is read must have the connectives of the tier reduced
(`Closes`).

* `Tier.strength`, `Shields`, `Closes`;
* **`Reads.leads`**: the simulation;
* **`resolve_of_wellFormed`**: a well-formed stream is resolved to the tree that the grammar gives it.
-/

namespace Expectation

/-- How tightly the connectives of a tier bind; an operand has none. -/
def Tier.strength : Tier → Nat
  | disjunction => Connective.or.precedence.left
  | conjunction => Connective.and.precedence.left
  | operand => Precedence.openLeft

/-- The last waiting operator binds less tightly than all connectives of the tier. -/
def Shields (tier : Tier) (waiting : List Pending) : Prop :=
  ∀ p ∈ waiting.head?, p.operator.precedence.right < tier.strength

/-- Nothing follows, or a connective that is no tighter than those of the tier. -/
def Closes (tier : Tier) (tokens : List Token) : Prop :=
  tokens = [] ∨ ∃ k rest, tokens = .operator (.connective k) :: rest ∧
    k.precedence.left ≤ tier.strength

section Surroundings

variable {tier : Tier} {tokens : List Token} {waiting : List Pending}

theorem Closes.nil : Closes tier [] := .inl rfl

theorem shields_of_head? {p : Pending} (hp : waiting.head? = some p)
    (h : p.operator.precedence.right < tier.strength) : Shields tier waiting := by
  intro q hq
  obtain rfl : p = q := Option.some.inj (hp.symm.trans hq)
  exact h

theorem Operator.right_lt_openLeft (op : Operator) : op.precedence.right < Precedence.openLeft := by
  unfold Operator.precedence Precedence.openLeft
  match op with
  | .unary .not | .unary (.quantified _) => simp [Unary.precedence]
  | .connective .and | .connective .or => simp [Connective.precedence]
  | .selector (.property _) | .selector (.attribute _) | .selector .throws =>
    simp [Selector.precedence]

theorem bindsBefore_openLeft {op : Operator} (h : op.precedence.left = Precedence.openLeft)
    (waiting : Operator) : bindsBefore op waiting = false := by
  have := waiting.right_lt_openLeft
  rw [bindsBefore, h, decide_eq_false_iff_not]
  omega

theorem Connective.left_le_not (k : Connective) :
    k.precedence.left ≤ Unary.not.precedence.right := by
  cases k <;> decide

theorem Quantifier.right_lt_strength (q : Quantifier) :
    (Operator.unary (.quantified q)).precedence.right < Tier.disjunction.strength := by
  cases q <;> decide

theorem throws_right_lt_strength :
    (Operator.selector .throws).precedence.right < Tier.disjunction.strength := by
  decide

theorem or_right_lt_strength :
    (Operator.connective .or).precedence.right < Tier.conjunction.strength := by
  decide

theorem Shields.bindsBefore_eq_false (h : Shields tier waiting) {k : Connective}
    (hk : k.precedence.left = tier.strength) :
    ∀ p ∈ waiting.head?, bindsBefore (.connective k) p.operator = false := by
  intro p hp
  have := h p hp
  rw [bindsBefore, Operator.precedence, hk, decide_eq_false_iff_not]
  omega

theorem Closes.forces (h : Closes tier tokens) {op : Operator}
    (hop : ∀ k : Connective, k.precedence.left ≤ tier.strength →
      k.precedence.left ≤ op.precedence.right) : forces tokens op = true := by
  rcases h with rfl | ⟨k, rest, rfl, hk⟩
  · rfl
  · have := hop k hk
    rw [Expectation.forces, bindsBefore, Operator.precedence, decide_eq_true_eq]
    exact this

theorem Closes.conjunction (h : Closes .disjunction tokens) : Closes .conjunction tokens := by
  rcases h with rfl | ⟨k, rest, rfl, hk⟩
  · exact .nil
  · exact .inr ⟨k, rest, rfl, hk.trans (by decide)⟩

theorem Closes.operand (h : Closes .conjunction tokens) : Closes .operand tokens := by
  rcases h with rfl | ⟨k, rest, rfl, hk⟩
  · exact .nil
  · exact .inr ⟨k, rest, rfl, hk.trans (by decide)⟩

theorem Shields.conjunction (h : Shields .disjunction waiting) : Shields .conjunction waiting :=
  fun p hp => (h p hp).trans (by decide)

theorem Shields.operand (waiting : List Pending) : Shields .operand waiting :=
  fun p _ => p.operator.right_lt_openLeft

end Surroundings

/-! ## Operators around their operands -/

section Around

variable {tier : Tier} {tokens middle rest : List Token} {waiting : List Pending}
  {operands : List Constraint} {a b c d : Constraint}

theorem Selector.left_precedence (s : Selector) :
    (Operator.selector s).precedence.left = Precedence.openLeft := by
  cases s <;> rfl

theorem reduced?_selector {s : Selector} {f : Follower} (h : f.endsOperand = false) :
    Pending.reduced? ⟨.selector s, f⟩ (c :: operands) = some (s.apply c :: operands) := by
  simp [Pending.reduced?, h]

theorem leads_front {op : Operator} (hleft : op.precedence.left = Precedence.openLeft)
    (hbegin : (Follower.of tokens).endsOperand = false)
    (hin : ∀ waiting, waiting.head? = some ⟨op, .of tokens⟩ →
      Stage.Leads ⟨tokens, waiting, operands⟩ ⟨rest, waiting, c :: operands⟩)
    (hforces : forces rest op = true)
    (hreduced : Pending.reduced? ⟨op, .of tokens⟩ (c :: operands) = some (d :: operands)) :
    Stage.Leads ⟨.operator op :: tokens, waiting, operands⟩ ⟨rest, waiting, d :: operands⟩ := by
  have halone : op.standsAlone (.of tokens) = false := by
    cases op <;> simp [Operator.standsAlone, hbegin]
  have hwaits : Stage.Leads ⟨.operator op :: tokens, waiting, operands⟩
      ⟨tokens, ⟨op, .of tokens⟩ :: waiting, operands⟩ :=
    Stage.leads_waits halone fun p _ => bindsBefore_openLeft hleft p.operator
  exact (hwaits.trans (hin _ rfl)).trans (Stage.leads_reduced hforces hreduced)

theorem leads_between {k : Connective} (hk : k.precedence.left = tier.strength)
    (hshields : Shields tier waiting) (hcloses : Closes tier rest)
    (ha : Stage.Leads ⟨tokens, waiting, operands⟩
      ⟨.operator (.connective k) :: middle, waiting, a :: operands⟩)
    (hb : ∀ waiting, waiting.head? = some ⟨.connective k, .of middle⟩ →
      Stage.Leads ⟨middle, waiting, a :: operands⟩ ⟨rest, waiting, b :: a :: operands⟩) :
    Stage.Leads ⟨tokens, waiting, operands⟩ ⟨rest, waiting, k.apply a b :: operands⟩ := by
  have hwaits : Stage.Leads ⟨.operator (.connective k) :: middle, waiting, a :: operands⟩
      ⟨middle, ⟨.connective k, .of middle⟩ :: waiting, a :: operands⟩ :=
    Stage.leads_waits rfl (hshields.bindsBefore_eq_false hk)
  have hforces : forces rest (.connective k) = true := by
    refine hcloses.forces fun j hj => hj.trans ?_
    rw [← hk]
    cases k <;> rfl
  exact ((ha.trans hwaits).trans (hb _ rfl)).trans (Stage.leads_reduced hforces rfl)

end Around

/-! ## The simulation -/

theorem closes_cons {tier : Tier} {k : Connective} (hk : k.precedence.left = tier.strength)
    (rest : List Token) : Closes tier (.operator (.connective k) :: rest) :=
  .inr ⟨k, rest, rfl, hk.le⟩

/-- **What recursive descent reads, the machine turns into one operand.** -/
theorem Reads.leads {tier : Tier} {tokens rest : List Token} {c : Constraint}
    (h : Reads tier tokens c rest) (waiting : List Pending) (operands : List Constraint)
    (hshields : Shields tier waiting) (hcloses : Closes tier rest) :
    Stage.Leads ⟨tokens, waiting, operands⟩ ⟨rest, waiting, c :: operands⟩ := by
  induction h generalizing waiting operands with
  | operand c rest => exact Stage.leads_operand c
  | alone s hs =>
    exact Stage.leads_standsAlone hs (fun p _ => bindsBefore_openLeft s.left_precedence p.operator)
      (by simp [Pending.reduced?, hs])
  | not h ih =>
    exact leads_front rfl h.endsOperand_eq_false (fun _ _ => ih _ _ (.operand _) hcloses)
      (hcloses.forces fun k _ => k.left_le_not) rfl
  | propertyIs name h ih | attributeIs name h ih =>
    have hbegin := h.endsOperand_eq_false
    exact leads_front rfl hbegin (fun _ _ => ih _ _ (.operand _) hcloses)
      (hcloses.forces fun k _ => k.left_le_not) (reduced?_selector hbegin)
  | items q h ih =>
    exact leads_front rfl h.endsOperand_eq_false
      (fun _ hw => ih _ _ (shields_of_head? hw q.right_lt_strength) .nil) rfl rfl
  | throwsMatching h ih =>
    have hbegin := h.endsOperand_eq_false
    exact leads_front rfl hbegin
      (fun _ hw => ih _ _ (shields_of_head? hw throws_right_lt_strength) .nil)
      rfl (reduced?_selector hbegin)
  | conjunction _ ih => exact ih _ _ (.operand _) hcloses.operand
  | disjunction _ ih => exact ih _ _ hshields.conjunction hcloses.conjunction
  | and _ _ iha ihb =>
    exact leads_between rfl hshields hcloses (iha _ _ hshields (closes_cons rfl _))
      fun _ _ => ihb _ _ (.operand _) hcloses.operand
  | or _ _ iha ihb =>
    exact leads_between rfl hshields hcloses (iha _ _ hshields (closes_cons rfl _))
      fun _ hw => ihb _ _ (shields_of_head? hw or_right_lt_strength) hcloses.conjunction

theorem Reads.resolve {tokens : List Token} {c : Constraint} (h : Reads .disjunction tokens c []) :
    resolve tokens = .ok c := by
  have hne : tokens ≠ [] := by
    rintro rfl
    exact absurd h.endsOperand_eq_false (by decide)
  refine resolve_of_leads hne (h.leads [] [] ?_ .nil)
  intro p hp
  cases hp

/-- **A well-formed stream is resolved to exactly the tree that the grammar gives it.** -/
theorem resolve_of_wellFormed {tokens : List Token} (h : WellFormed tokens) :
    ∃ c, resolve tokens = .ok c ∧ ∀ d, Reads .disjunction tokens d [] ↔ d = c := by
  obtain ⟨c, hc⟩ := h.exists_reads
  refine ⟨c, hc.resolve, fun d => ⟨fun hd => ?_, fun hd => hd ▸ hc⟩⟩
  exact Except.ok.inj (hd.resolve.symm.trans hc.resolve)

/-- A quantifier takes in all that follows, and in it `and` binds before `or`. -/
theorem resolve_quantified_in_disjunction :
    let tokens : List Token := [.operand .isNull, .operator (.connective .or),
      .operator (.unary .not), .operator (.unary (.quantified .all)), .operand .isTrue,
      .operator (.connective .and), .operator (.selector .throws), .operator (.connective .or),
      .operand .isFalse]
    let c : Constraint := .or .isNull (.not (.items .all (.or (.and .isTrue .throws) .isFalse)))
    WellFormed tokens ∧ resolve tokens = .ok c ∧ ∀ d, Reads .disjunction tokens d [] ↔ d = c := by
  intro tokens c
  have hwell : WellFormed tokens :=
    .connective .or .operand (.connective .and (.unary .not (.unary (.quantified .all) .operand))
      (.connective .or (.alone .throws) (.operand .operand)))
  obtain ⟨d, hd, hreads⟩ := resolve_of_wellFormed hwell
  have hc : resolve tokens = .ok c := rfl
  obtain rfl : d = c := Except.ok.inj (hd.symm.trans hc)
  exact ⟨hwell, hc, hreads⟩

end Expectation
