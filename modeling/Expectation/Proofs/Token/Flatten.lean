import Mathlib.Tactic.Tauto
import Expectation.Proofs.Token.Descent

/-!
# Trees and their streams

A tree is flattened to the stream that names its nodes in order. Streams with plain leaves and trees of
the right shape correspond to each other, one to one, by resolution and flattening.

* `Constraint.flatten`: the stream of a tree;
* `Constraint.endsLoosely`, `Constraint.isShaped`: the trees that precedence can produce;
* `Reads.flatten`, `reads_flatten`: flattening undoes recursive descent, and the other way round;
* **`resolve_flatten_inverse`**: resolution and flattening are inverse to each other.
-/

namespace Expectation

namespace Constraint

/-! ## Flattening -/

/-- The tokens of a tree in order. What asks for mere existence is a selector that stands alone. -/
def flatten : Constraint → List Token
  | not c => .operator (.unary .not) :: flatten c
  | items q c => .operator (.unary (.quantified q)) :: flatten c
  | and a b => flatten a ++ .operator (.connective .and) :: flatten b
  | or a b => flatten a ++ .operator (.connective .or) :: flatten b
  | propertyIs name c => .operator (.selector (.property name)) :: flatten c
  | attributeIs name c => .operator (.selector (.attribute name)) :: flatten c
  | throwsMatching c => .operator (.selector .throws) :: flatten c
  | hasProperty name => [.operator (.selector (.property name))]
  | hasAttribute name => [.operator (.selector (.attribute name))]
  | throws => [.operator (.selector .throws)]
  | c => [.operand c]

/-- A constraint without inner constraints that does not ask for mere existence. -/
def isPlain : Constraint → Bool
  | not _ | items _ _ | and _ _ | or _ _ => false
  | propertyIs _ _ | attributeIs _ _ | throwsMatching _ => false
  | hasProperty _ | hasAttribute _ | throws => false
  | _ => true

/-! ## The shape of trees -/

/-- The root is `and`. -/
def isAnd : Constraint → Bool
  | and _ _ => true
  | _ => false

/-- The root is `or`. -/
def isOr : Constraint → Bool
  | or _ _ => true
  | _ => false

/-- The right edge of the tree ends in a quantifier or in the selection of a fault, which would take in
what comes after it. -/
def endsLoosely : Constraint → Bool
  | items _ _ | throwsMatching _ => true
  | not c | propertyIs _ c | attributeIs _ c => endsLoosely c
  | and _ b | or _ b => endsLoosely b
  | _ => false

/-- At every node the operators are grouped as precedence groups them. -/
def isShaped : Constraint → Bool
  | and a b =>
    isShaped a && isShaped b && !a.isOr && !a.endsLoosely && !b.isOr && !b.isAnd
  | or a b => isShaped a && isShaped b && !a.endsLoosely && !b.isOr
  | not c | propertyIs _ c | attributeIs _ c => isShaped c && !c.isAnd && !c.isOr
  | items _ c | throwsMatching c => isShaped c
  | _ => true

variable {c : Constraint}

theorem flatten_of_isPlain (h : c.isPlain = true) : c.flatten = [.operand c] := by
  cases c <;> first | rfl | exact Bool.noConfusion h

theorem isShaped_of_isPlain (h : c.isPlain = true) : c.isShaped = true := by
  cases c <;> first | rfl | exact Bool.noConfusion h

theorem endsLoosely_of_isPlain (h : c.isPlain = true) : c.endsLoosely = false := by
  cases c <;> first | rfl | exact Bool.noConfusion h

end Constraint

/-- The constraints of all operands are plain. -/
def PlainOperands (tokens : List Token) : Prop :=
  ∀ c, .operand c ∈ tokens → c.isPlain = true

/-- The root of the tree is no connective that is looser than those of the tier. -/
def Tier.admits : Tier → Constraint → Bool
  | disjunction, _ => true
  | conjunction, c => !c.isOr
  | operand, c => !c.isAnd && !c.isOr

theorem Tier.admits_of_isPlain (tier : Tier) {c : Constraint} (h : c.isPlain = true) :
    tier.admits c = true := by
  cases tier <;> cases c <;> first | rfl | exact Bool.noConfusion h

namespace Constraint

variable {a b c : Constraint}

theorem isShaped_and : (and a b).isShaped = true ↔ a.isShaped = true ∧ b.isShaped = true ∧
    Tier.conjunction.admits a = true ∧ Tier.operand.admits b = true ∧ a.endsLoosely = false := by
  simp only [isShaped, Tier.admits, Bool.and_eq_true, Bool.not_eq_true']
  tauto

theorem isShaped_or : (or a b).isShaped = true ↔ a.isShaped = true ∧ b.isShaped = true ∧
    Tier.conjunction.admits b = true ∧ a.endsLoosely = false := by
  simp only [isShaped, Tier.admits, Bool.and_eq_true, Bool.not_eq_true']
  tauto

theorem isShaped_not :
    (not c).isShaped = true ↔ c.isShaped = true ∧ Tier.operand.admits c = true := by
  simp only [isShaped, Tier.admits, Bool.and_eq_true, and_assoc]

end Constraint

section PlainOperands

variable {tokens rest : List Token}

theorem plainOperands_nil : PlainOperands [] := fun _ h => absurd h List.not_mem_nil

theorem plainOperands_cons_operand {c : Constraint} :
    PlainOperands (.operand c :: tokens) ↔ c.isPlain = true ∧ PlainOperands tokens := by
  simp [PlainOperands]

theorem plainOperands_cons_operator {op : Operator} :
    PlainOperands (.operator op :: tokens) ↔ PlainOperands tokens := by
  simp [PlainOperands]

theorem plainOperands_append :
    PlainOperands (tokens ++ rest) ↔ PlainOperands tokens ∧ PlainOperands rest := by
  simp only [PlainOperands, List.mem_append, or_imp, forall_and]

theorem plainOperands_flatten (c : Constraint) : PlainOperands c.flatten := by
  induction c with
  | not c ih | items q c ih | propertyIs name c ih | attributeIs name c ih | throwsMatching c ih =>
    exact plainOperands_cons_operator.mpr ih
  | and a b iha ihb | or a b iha ihb =>
    exact plainOperands_append.mpr ⟨iha, plainOperands_cons_operator.mpr ihb⟩
  | hasProperty name | hasAttribute name | throws =>
    exact plainOperands_cons_operator.mpr plainOperands_nil
  | _ => exact plainOperands_cons_operand.mpr ⟨rfl, plainOperands_nil⟩

end PlainOperands

/-! ## Recursive descent and flattening -/

section Flatten

variable {tier : Tier} {tokens rest : List Token} {c : Constraint}

theorem Reads.plainOperands_rest (h : Reads tier tokens c rest) (hplain : PlainOperands tokens) :
    PlainOperands rest := by
  induction h with
  | operand c rest => exact (plainOperands_cons_operand.mp hplain).2
  | alone s _ => exact plainOperands_cons_operator.mp hplain
  | not _ ih | propertyIs _ _ ih | attributeIs _ _ ih =>
    exact ih (plainOperands_cons_operator.mp hplain)
  | items _ _ _ | throwsMatching _ _ => exact plainOperands_nil
  | conjunction _ ih | disjunction _ ih => exact ih hplain
  | and _ _ iha ihb | or _ _ iha ihb =>
    exact ihb (plainOperands_cons_operator.mp (iha hplain))

/-- **Recursive descent reads trees of the right shape, which flatten to the tokens that were read.** A
tree that ends loosely was read to the end of the stream. -/
theorem Reads.flatten (h : Reads tier tokens c rest) (hplain : PlainOperands tokens) :
    c.flatten ++ rest = tokens ∧ c.isShaped = true ∧ tier.admits c = true ∧
      (c.endsLoosely = true → rest = []) := by
  induction h with
  | operand c rest =>
    have hc := (plainOperands_cons_operand.mp hplain).1
    refine ⟨?_, c.isShaped_of_isPlain hc, Tier.admits_of_isPlain _ hc, ?_⟩
    · rw [c.flatten_of_isPlain hc, List.singleton_append]
    · rw [c.endsLoosely_of_isPlain hc]
      exact Bool.noConfusion
  | alone s _ => cases s <;> exact ⟨rfl, rfl, rfl, Bool.noConfusion⟩
  | not _ ih | propertyIs _ _ ih | attributeIs _ _ ih =>
    obtain ⟨rfl, hshaped, hadmits, hloose⟩ := ih (plainOperands_cons_operator.mp hplain)
    refine ⟨rfl, ?_, rfl, hloose⟩
    rw [Constraint.isShaped, hshaped]
    exact hadmits
  | items _ _ ih | throwsMatching _ ih =>
    obtain ⟨rfl, hshaped, -, -⟩ := ih (plainOperands_cons_operator.mp hplain)
    exact ⟨rfl, hshaped, rfl, fun _ => rfl⟩
  | conjunction _ ih =>
    obtain ⟨hflatten, hshaped, hadmits, hloose⟩ := ih hplain
    exact ⟨hflatten, hshaped, (Bool.and_eq_true_iff.mp hadmits).2, hloose⟩
  | disjunction _ ih =>
    obtain ⟨hflatten, hshaped, -, hloose⟩ := ih hplain
    exact ⟨hflatten, hshaped, rfl, hloose⟩
  | and ha _ iha ihb =>
    obtain ⟨rfl, hashaped, haadmits, haloose⟩ := iha hplain
    obtain ⟨rfl, hbshaped, hbadmits, hbloose⟩ :=
      ihb (plainOperands_cons_operator.mp (ha.plainOperands_rest hplain))
    have hloose := Bool.eq_false_iff.mpr fun hl => List.cons_ne_nil _ _ (haloose hl)
    exact ⟨by simp [Constraint.flatten],
      Constraint.isShaped_and.mpr ⟨hashaped, hbshaped, haadmits, hbadmits, hloose⟩, rfl, hbloose⟩
  | or ha _ iha ihb =>
    obtain ⟨rfl, hashaped, -, haloose⟩ := iha hplain
    obtain ⟨rfl, hbshaped, hbadmits, hbloose⟩ :=
      ihb (plainOperands_cons_operator.mp (ha.plainOperands_rest hplain))
    have hloose := Bool.eq_false_iff.mpr fun hl => List.cons_ne_nil _ _ (haloose hl)
    exact ⟨by simp [Constraint.flatten],
      Constraint.isShaped_or.mpr ⟨hashaped, hbshaped, hbadmits, hloose⟩, rfl, hbloose⟩

theorem Reads.lift (h : Reads .operand tokens c rest) (tier : Tier) : Reads tier tokens c rest := by
  cases tier with
  | operand => exact h
  | conjunction => exact .conjunction h
  | disjunction => exact .disjunction (.conjunction h)

/-- **Recursive descent reads a tree of the right shape off its own tokens.** -/
theorem reads_flatten (hshaped : c.isShaped = true) (hadmits : tier.admits c = true)
    (hloose : c.endsLoosely = true → rest = []) (hrest : (Follower.of rest).endsOperand = true) :
    Reads tier (c.flatten ++ rest) c rest := by
  induction c generalizing tier rest with
  | not c ih =>
    obtain ⟨hs, ha⟩ := Constraint.isShaped_not.mp hshaped
    exact (Reads.not (ih hs ha hloose hrest)).lift tier
  | propertyIs name c ih =>
    obtain ⟨hs, ha⟩ := Constraint.isShaped_not.mp hshaped
    exact (Reads.propertyIs name (ih hs ha hloose hrest)).lift tier
  | attributeIs name c ih =>
    obtain ⟨hs, ha⟩ := Constraint.isShaped_not.mp hshaped
    exact (Reads.attributeIs name (ih hs ha hloose hrest)).lift tier
  | items q c ih =>
    obtain rfl := hloose rfl
    exact (Reads.items q (ih hshaped rfl (fun _ => rfl) rfl)).lift tier
  | throwsMatching c ih =>
    obtain rfl := hloose rfl
    exact (Reads.throwsMatching (ih hshaped rfl (fun _ => rfl) rfl)).lift tier
  | and a b iha ihb =>
    obtain ⟨has, hbs, haa, hba, hal⟩ := Constraint.isShaped_and.mp hshaped
    have ha : Reads .conjunction
        (a.flatten ++ .operator (.connective .and) :: (b.flatten ++ rest)) a _ :=
      iha has haa (fun hl => absurd hl (by simp [hal])) rfl
    have hab : Reads .conjunction ((Constraint.and a b).flatten ++ rest) (.and a b) rest := by
      rw [Constraint.flatten, List.append_assoc, List.cons_append]
      exact .and ha (ihb hbs hba hloose hrest)
    cases tier with
    | operand => exact Bool.noConfusion hadmits
    | conjunction => exact hab
    | disjunction => exact .disjunction hab
  | or a b iha ihb =>
    obtain ⟨has, hbs, hba, hal⟩ := Constraint.isShaped_or.mp hshaped
    have ha : Reads .disjunction
        (a.flatten ++ .operator (.connective .or) :: (b.flatten ++ rest)) a _ :=
      iha has rfl (fun hl => absurd hl (by simp [hal])) rfl
    cases tier with
    | operand | conjunction => exact Bool.noConfusion hadmits
    | disjunction =>
      rw [Constraint.flatten, List.append_assoc, List.cons_append]
      exact .or ha (ihb hbs hba hloose hrest)
  | hasProperty name => exact (Reads.alone (.property name) hrest).lift tier
  | hasAttribute name => exact (Reads.alone (.attribute name) hrest).lift tier
  | throws => exact (Reads.alone .throws hrest).lift tier
  | _ => exact (Reads.operand _ rest).lift tier

end Flatten

/-! ## The correspondence -/

/-- **Resolution and flattening are inverse to each other**, between the well-formed streams with plain
operands and the trees of the right shape. -/
theorem resolve_flatten_inverse :
    (∀ tokens, WellFormed tokens → PlainOperands tokens →
      ∃ c, resolve tokens = .ok c ∧ c.isShaped = true ∧ c.flatten = tokens) ∧
    ∀ c : Constraint, c.isShaped = true →
      WellFormed c.flatten ∧ PlainOperands c.flatten ∧ resolve c.flatten = .ok c := by
  refine ⟨fun tokens hwell hplain => ?_, fun c hshaped => ?_⟩
  · obtain ⟨c, hc⟩ := hwell.exists_reads
    obtain ⟨hflatten, hshaped, -, -⟩ := hc.flatten hplain
    exact ⟨c, hc.resolve, hshaped, by rwa [List.append_nil] at hflatten⟩
  · have hc : Reads .disjunction (c.flatten ++ []) c [] :=
      reads_flatten hshaped rfl (fun _ => rfl) rfl
    rw [List.append_nil] at hc
    exact ⟨hc.series .nil, plainOperands_flatten c, hc.resolve⟩

/-- A stream whose last operand ends loosely, and its tree. -/
theorem resolve_flatten_inverse_loose_end :
    let tokens : List Token := [.operator (.selector (.property "name")), .operator (.connective .or),
      .operand .isTrue, .operator (.connective .and), .operator (.selector .throws), .operand .isNull]
    let c : Constraint := .or (.hasProperty "name") (.and .isTrue (.throwsMatching .isNull))
    WellFormed tokens ∧ PlainOperands tokens ∧
      (∃ d, resolve tokens = .ok d ∧ d.isShaped = true ∧ d.flatten = tokens) ∧
      c.isShaped = true ∧ c.flatten = tokens ∧ resolve c.flatten = .ok c := by
  intro tokens c
  have hwell : WellFormed tokens :=
    .connective .or (.alone (.property "name"))
      (.connective .and .operand (.operand (.selector .throws .operand)))
  have hplain : PlainOperands tokens := by simp [tokens, PlainOperands, Constraint.isPlain]
  have hshaped : c.isShaped = true := rfl
  exact ⟨hwell, hplain, resolve_flatten_inverse.1 tokens hwell hplain, hshaped, rfl,
    (resolve_flatten_inverse.2 c hshaped).2.2⟩

end Expectation
