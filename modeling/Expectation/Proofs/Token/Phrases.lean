import Expectation.Constraint.Describe
import Expectation.Proofs.Token.Balance
import Expectation.Proofs.Token.Descent

/-!
# The phrases of a stream

A resolved stream is described as it was written: precedence groups the operands, and the description
does not show how.

* `Unary.phrase`, `Connective.phrase`, `Selector.phrase`, `Selector.alonePhrase`: what operators say;
* `Placed.phrase`, `wording`: what a token says in its place, and all tokens in order;
* `Reads.wording_eq`: what recursive descent reads is worded like its tokens;
* **`describe_resolve`**: the description of a well-formed stream.
-/

namespace Expectation

/-! ## Phrases -/

/-- What a unary operator says before its operand. -/
def Unary.phrase : Unary → String
  | not => "not "
  | quantified .all => "all items "
  | quantified .some => "some item "
  | quantified .none => "no item "

/-- What a connective says between its operands. -/
def Connective.phrase : Connective → String
  | and => " and "
  | or => " or "

/-- What a selector says before its operand. -/
def Selector.phrase : Selector → String
  | property name => "property " ++ name ++ " "
  | .attribute name => "attribute " ++ name ++ " "
  | throws => "fault "

/-- What a selector says that stands alone. -/
def Selector.alonePhrase : Selector → String
  | property name => "property " ++ name
  | .attribute name => "attribute " ++ name
  | throws => "a fault"

/-- What an operator says, given what follows it. -/
def Operator.phrase : Operator → Follower → String
  | unary u, _ => u.phrase
  | connective k, _ => k.phrase
  | selector s, f => if f.endsOperand then s.alonePhrase else s.phrase

/-- What a token says in its place: an operand its own description. -/
def Placed.phrase (limits : RenderLimits) : Placed → String
  | ⟨.operand c, _⟩ => c.describe limits
  | ⟨.operator op, f⟩ => op.phrase f

/-- The phrases of all tokens in the order of the stream. -/
def wording (limits : RenderLimits) (tokens : List Token) : String :=
  String.join ((placed tokens).map (Placed.phrase limits))

/-! ## Descriptions by operator -/

section Describe

variable (limits : RenderLimits) (a b c : Constraint)

theorem Unary.describe_apply (u : Unary) :
    (u.apply c).describe limits = u.phrase ++ c.describe limits := by
  match u with
  | .not | .quantified .all | .quantified .some | .quantified .none => rfl

theorem Connective.describe_apply (k : Connective) :
    (k.apply a b).describe limits = a.describe limits ++ (k.phrase ++ b.describe limits) := by
  cases k <;> exact String.append_assoc

theorem Selector.describe_apply (s : Selector) :
    (s.apply c).describe limits = s.phrase ++ c.describe limits := by
  cases s <;> rfl

theorem Selector.describe_alone (s : Selector) : s.alone.describe limits = s.alonePhrase := by
  cases s <;> rfl

end Describe

/-! ## Recursive descent and wording -/

section Wording

variable {tier : Tier} {tokens middle rest : List Token} {a b c : Constraint} {limits : RenderLimits}

theorem wording_cons (t : Token) (tokens : List Token) :
    wording limits (t :: tokens) = Placed.phrase limits ⟨t, .of tokens⟩ ++ wording limits tokens :=
  String.join_cons

theorem wording_unary (u : Unary)
    (h : wording limits tokens = c.describe limits ++ wording limits rest) :
    wording limits (.operator (.unary u) :: tokens) =
      (u.apply c).describe limits ++ wording limits rest := by
  rw [wording_cons, h, u.describe_apply, String.append_assoc]
  rfl

theorem wording_selector (s : Selector) (hbegin : (Follower.of tokens).endsOperand = false)
    (h : wording limits tokens = c.describe limits ++ wording limits rest) :
    wording limits (.operator (.selector s) :: tokens) =
      (s.apply c).describe limits ++ wording limits rest := by
  have hphrase : Placed.phrase limits ⟨.operator (.selector s), .of tokens⟩ = s.phrase :=
    if_neg (Bool.eq_false_iff.mp hbegin)
  rw [wording_cons, hphrase, h, s.describe_apply, String.append_assoc]

theorem wording_connective (k : Connective)
    (ha : wording limits tokens =
      a.describe limits ++ wording limits (.operator (.connective k) :: middle))
    (hb : wording limits middle = b.describe limits ++ wording limits rest) :
    wording limits tokens = (k.apply a b).describe limits ++ wording limits rest := by
  rw [ha, wording_cons, hb, k.describe_apply, String.append_assoc, String.append_assoc]
  rfl

/-- **What recursive descent reads is worded like its tokens**, and the rest follows. -/
theorem Reads.wording_eq (h : Reads tier tokens c rest) :
    wording limits tokens = c.describe limits ++ wording limits rest := by
  induction h with
  | operand c rest => exact wording_cons (.operand c) rest
  | alone s hends =>
    rw [wording_cons, s.describe_alone]
    exact congrArg (· ++ _) (if_pos hends)
  | not _ ih => exact wording_unary .not ih
  | propertyIs name h ih => exact wording_selector (.property name) h.endsOperand_eq_false ih
  | attributeIs name h ih => exact wording_selector (.attribute name) h.endsOperand_eq_false ih
  | items q _ ih => exact wording_unary (.quantified q) ih
  | throwsMatching h ih => exact wording_selector .throws h.endsOperand_eq_false ih
  | conjunction _ ih | disjunction _ ih => exact ih
  | and _ _ iha ihb => exact wording_connective .and iha ihb
  | or _ _ iha ihb => exact wording_connective .or iha ihb

end Wording

/-- **A well-formed stream is described as it was written**, within any limits. -/
theorem describe_resolve {tokens : List Token} (h : WellFormed tokens) :
    ∃ c, resolve tokens = .ok c ∧ ∀ limits, c.describe limits = wording limits tokens := by
  obtain ⟨c, hc⟩ := h.exists_reads
  refine ⟨c, hc.resolve, fun limits => ?_⟩
  calc c.describe limits
    _ = c.describe limits ++ wording limits [] := String.append_empty.symm
    _ = wording limits tokens := hc.wording_eq.symm

/-- A stream with a selector of either kind, in which precedence groups three times. -/
theorem describe_resolve_grouped :
    let tokens : List Token := [.operator (.selector (.property "name")), .operator (.connective .or),
      .operator (.unary .not), .operator (.selector (.attribute "tag")), .operand .isNull,
      .operator (.connective .and), .operator (.selector .throws),
      .operator (.unary (.quantified .none)), .operand (.and .isTrue .isNaN)]
    let c : Constraint := .or (.hasProperty "name") (.and (.not (.attributeIs "tag" .isNull))
      (.throwsMatching (.items .none (.and .isTrue .isNaN))))
    WellFormed tokens ∧ resolve tokens = .ok c ∧ (∀ limits, c.describe limits = wording limits tokens) ∧
      wording .default tokens =
        "property name or not attribute tag null and fault no item true and NaN" := by
  intro tokens c
  have hwell : WellFormed tokens :=
    .connective .or (.alone (.property "name"))
      (.connective .and (.unary .not (.selector (.attribute "tag") .operand))
        (.operand (.selector .throws (.unary (.quantified .none) .operand))))
  obtain ⟨d, hd, hdescribe⟩ := describe_resolve hwell
  have hc : resolve tokens = .ok c := rfl
  obtain rfl : d = c := Except.ok.inj (hd.symm.trans hc)
  exact ⟨hwell, hc, hdescribe, rfl⟩

end Expectation
