import Expectation.Proofs.Chain.Legality
import Expectation.Proofs.Token.Content

/-!
# The state of a chain and its last token

The state of a chain is all that decides whether a modifier is legal, and a modifier does nothing to a
token that it does not fit. The state describes the last token well enough for this never to happen.

* `State.Describes`: what a state tells of the last token;
* `describes_ofWords`: the state of every chain of calls tells the truth;
* `Admits`, `ChangesLast`: a legal modifier takes effect, and on the last token alone;
* `Constraint.Unmixed`, `unmixed_ofWords`: a tolerance and ignored case never come together;
* **`lastToken_ofWords`**: all of this for every chain of calls.
-/

namespace Expectation

/-- No equality in the tree has a tolerance and ignores case as well. -/
def Constraint.Unmixed (c : Constraint) : Prop :=
  ∀ expected tolerance, .equal expected (some tolerance) true ∉ c.leaves

namespace Chain

/-! ## What a state tells -/

/-- What a state tells of the last token. -/
def State.Describes : State → Option Token → Prop
  | start, last => last = none
  | awaitingOperand, last =>
    (∃ u, last = some (.operator (.unary u))) ∨ ∃ k, last = some (.operator (.connective k))
  | afterSelector, last => ∃ s, last = some (.operator (.selector s))
  | equality, last => ∃ v, last = some (.operand (.equal v none false))
  | tolerance, last => ∃ v amount, last = some (.operand (.equal v (some ⟨amount, .linear⟩) false))
  | text, last => ∃ s p, last = some (.operand (.text s p false))
  | complete, last => ∃ c, last = some (.operand c)

section Describes

variable {s : State} {reversed : List Token} {chain chain' : Chain}

theorem State.describes_after (c : Constraint) : (after c).Describes (some (.operand c)) := by
  unfold after
  split
  · exact ⟨_, rfl⟩
  · exact ⟨_, _, rfl⟩
  · exact ⟨_, _, rfl⟩
  · exact ⟨_, rfl⟩

theorem State.Describes.of_within (h : s.Describes reversed.head?)
    (hpermits : s.permits .within = true) :
    ∃ v rest, reversed = .operand (.equal v none false) :: rest := by
  cases s with
  | equality =>
    obtain ⟨v, hv⟩ := h
    obtain ⟨rest, hrest⟩ := List.head?_eq_some_iff.mp hv
    exact ⟨v, rest, hrest⟩
  | _ => exact Bool.noConfusion hpermits

theorem State.Describes.of_percent (h : s.Describes reversed.head?)
    (hpermits : s.permits .percent = true) :
    ∃ v amount rest, reversed = .operand (.equal v (some ⟨amount, .linear⟩) false) :: rest := by
  cases s with
  | tolerance =>
    obtain ⟨v, amount, hv⟩ := h
    obtain ⟨rest, hrest⟩ := List.head?_eq_some_iff.mp hv
    exact ⟨v, amount, rest, hrest⟩
  | _ => exact Bool.noConfusion hpermits

theorem State.Describes.of_ignoreCase (h : s.Describes reversed.head?)
    (hpermits : s.permits .ignoreCase = true) :
    (∃ v rest, reversed = .operand (.equal v none false) :: rest) ∨
      ∃ t p rest, reversed = .operand (.text t p false) :: rest := by
  cases s with
  | equality =>
    obtain ⟨v, hv⟩ := h
    obtain ⟨rest, hrest⟩ := List.head?_eq_some_iff.mp hv
    exact .inl ⟨v, rest, hrest⟩
  | text =>
    obtain ⟨t, p, hv⟩ := h
    obtain ⟨rest, hrest⟩ := List.head?_eq_some_iff.mp hv
    exact .inr ⟨t, p, rest, hrest⟩
  | _ => exact Bool.noConfusion hpermits

/-- **A legal call leaves a state that describes the last token.** -/
theorem describes_advances (h : chain.state.Describes chain.reversed.head?)
    (hadvances : Advances chain chain') : chain'.state.Describes chain'.reversed.head? := by
  cases hadvances with
  | stays _ => exact h
  | operand c _ => exact State.describes_after c
  | unary u _ => exact .inl ⟨u, rfl⟩
  | connective k _ => exact .inr ⟨k, rfl⟩
  | selector s _ => exact ⟨s, rfl⟩
  | within amount hpermits =>
    obtain ⟨v, rest, hreversed⟩ := h.of_within hpermits
    rw [hreversed]
    exact ⟨v, amount, rfl⟩
  | percent hpermits =>
    obtain ⟨v, amount, rest, hreversed⟩ := h.of_percent hpermits
    rw [hreversed]
    exact ⟨_, rfl⟩
  | ignoreCase hpermits =>
    rcases h.of_ignoreCase hpermits with ⟨v, rest, hreversed⟩ | ⟨t, p, rest, hreversed⟩ <;>
    rw [hreversed] <;> exact ⟨_, rfl⟩

theorem describes_extend (h : chain.state.Describes chain.reversed.head?) (w : Word) :
    (chain.extend w).state.Describes (chain.extend w).reversed.head? := by
  cases herror : chain.error with
  | some e => rwa [extend_of_error (by rw [herror]; rfl)]
  | none =>
    have hr := responds_extend herror w
    generalize chain.extend w = chain' at hr
    cases hr with
    | refuses step _ _ => exact h
    | advances _ hadvances => exact describes_advances h hadvances

/-- **The state of every chain of calls describes the last token**, also after an error. -/
theorem describes_ofWords (words : List Word) :
    (ofWords words).state.Describes (ofWords words).reversed.head? := by
  induction words using List.reverseRecOn with
  | nil => rfl
  | append_singleton words w ih =>
    rw [ofWords_append_singleton]
    exact describes_extend ih w

end Describes

/-! ## The effect of the modifiers -/

/-- A step is made when it is legal and there is no error. -/
structure Admits (chain : Chain) (step : Step) : Prop where
  error_eq_none : chain.error = none
  permits : chain.state.permits step = true

/-- The chains differ in their last tokens only, which are these operands. -/
def ChangesLast (chain chain' : Chain) (c c' : Constraint) : Prop :=
  ∃ before, chain.tokens = before ++ [.operand c] ∧ chain'.tokens = before ++ [.operand c']

section Modifiers

variable {chain : Chain} {step : Step} {next : State} {edit : Constraint → Constraint}

theorem Admits.reversed_modifyLast (h : chain.Admits step) (next : State)
    (edit : Constraint → Constraint) :
    (chain.modifyLast step next edit).reversed = editLast edit chain.reversed := by
  rw [modifyLast, attempt, if_neg (by simp [h.error_eq_none]), if_pos h.permits]

theorem reversed_modifyLast_of_not_admits (h : ¬ chain.Admits step) :
    (chain.modifyLast step next edit).reversed = chain.reversed := by
  rw [modifyLast, attempt]
  split_ifs with herror hpermits
  · rfl
  · exact absurd ⟨Option.not_isSome_iff_eq_none.mp herror, hpermits⟩ h
  · rfl

theorem Admits.changesLast (h : chain.Admits step) {c : Constraint} {rest : List Token}
    (hreversed : chain.reversed = .operand c :: rest) (next : State)
    (edit : Constraint → Constraint) :
    ChangesLast chain (chain.modifyLast step next edit) c (edit c) := by
  refine ⟨rest.reverse, ?_, ?_⟩
  · rw [tokens, hreversed, List.reverse_cons]
  · rw [tokens, h.reversed_modifyLast, hreversed, editLast, List.reverse_cons]

variable (hlast : chain.state.Describes chain.reversed.head?)
include hlast

theorem changesLast_of_within (h : chain.Admits .within) (amount : Binary64) :
    ∃ v, ChangesLast chain (chain.extend (.within amount)) (.equal v none false)
      (.equal v (some ⟨amount, .linear⟩) false) := by
  obtain ⟨v, rest, hreversed⟩ := hlast.of_within h.permits
  exact ⟨v, h.changesLast hreversed _ _⟩

theorem changesLast_of_percent (h : chain.Admits .percent) :
    ∃ v amount, ChangesLast chain (chain.extend .percent) (.equal v (some ⟨amount, .linear⟩) false)
      (.equal v (some ⟨amount, .percent⟩) false) := by
  obtain ⟨v, amount, rest, hreversed⟩ := hlast.of_percent h.permits
  exact ⟨v, amount, h.changesLast hreversed _ _⟩

theorem changesLast_of_ignoreCase (h : chain.Admits .ignoreCase) :
    (∃ v, ChangesLast chain (chain.extend .ignoreCase) (.equal v none false) (.equal v none true)) ∨
      ∃ t p, ChangesLast chain (chain.extend .ignoreCase) (.text t p false) (.text t p true) := by
  rcases hlast.of_ignoreCase h.permits with ⟨v, rest, hreversed⟩ | ⟨t, p, rest, hreversed⟩
  · exact .inl ⟨v, h.changesLast hreversed _ _⟩
  · exact .inr ⟨t, p, h.changesLast hreversed _ _⟩

end Modifiers

/-! ## Tolerance and case -/

/-- No operand of the chain holds an equality that has a tolerance and ignores case as well. -/
def Unmixed (chain : Chain) : Prop := ∀ c, .operand c ∈ chain.reversed → c.Unmixed

section Unmixed

variable {chain : Chain} {step : Step} {next : State} {edit : Constraint → Constraint}
  {c root : Constraint}

theorem Unmixed.append (h : chain.Unmixed) {token : Token}
    (htoken : ∀ c, token = .operand c → c.Unmixed) : (chain.append step token next).Unmixed := by
  rw [Chain.append, attempt]
  split_ifs
  · exact h
  · intro c hc
    rcases List.mem_cons.mp hc with heq | hmem
    · exact htoken c heq.symm
    · exact h c hmem
  · exact h

theorem Unmixed.operator (h : chain.Unmixed) (op : Operator) :
    (chain.append step (.operator op) next).Unmixed :=
  h.append fun _ heq => Token.noConfusion heq

theorem Unmixed.operand (h : chain.Unmixed) (hc : c.Unmixed) : (chain.operand c next).Unmixed :=
  h.append fun _ heq => Token.operand.inj heq ▸ hc

theorem Unmixed.modifyLast (h : chain.Unmixed)
    (hedit : chain.Admits step →
      ∃ c rest, chain.reversed = .operand c :: rest ∧ (edit c).Unmixed) :
    (chain.modifyLast step next edit).Unmixed := by
  by_cases hadmits : chain.Admits step
  · obtain ⟨c, rest, hreversed, hc⟩ := hedit hadmits
    intro d hd
    rw [hadmits.reversed_modifyLast, hreversed, editLast] at hd
    rcases List.mem_cons.mp hd with heq | hmem
    · exact Token.operand.inj heq ▸ hc
    · exact h d (hreversed ▸ List.mem_cons_of_mem _ hmem)
  · rw [Unmixed, reversed_modifyLast_of_not_admits hadmits]
    exact h

theorem Unmixed.extend (h : chain.Unmixed) (hlast : chain.state.Describes chain.reversed.head?)
    (w : Word) : (chain.extend w).Unmixed := by
  cases w with
  | within amount =>
    refine h.modifyLast fun hadmits => ?_
    obtain ⟨v, rest, hreversed⟩ := hlast.of_within hadmits.permits
    exact ⟨_, rest, hreversed, by simp [setTolerance, Constraint.Unmixed, Constraint.leaves]⟩
  | percent =>
    refine h.modifyLast fun hadmits => ?_
    obtain ⟨v, amount, rest, hreversed⟩ := hlast.of_percent hadmits.permits
    exact ⟨_, rest, hreversed, by simp [setPercent, Constraint.Unmixed, Constraint.leaves]⟩
  -- an equality that may still ignore case has no tolerance yet, and the call ends its modifiers
  | ignoreCase =>
    refine h.modifyLast fun hadmits => ?_
    rcases hlast.of_ignoreCase hadmits.permits with ⟨v, rest, hreversed⟩ | ⟨t, p, rest, hreversed⟩ <;>
    exact ⟨_, rest, hreversed, by simp [setIgnoreCase, Constraint.Unmixed, Constraint.leaves]⟩
  | not | quantified q | and | or | property name | «attribute» name | throws => exact h.operator _
  | joined =>
    rw [Chain.extend]
    split
    · exact h.operator _
    · exact h
  | _ => exact h.operand (by simp [Constraint.Unmixed, Constraint.leaves])

theorem unmixed_ofWords (words : List Word) : (ofWords words).Unmixed := by
  induction words using List.reverseRecOn with
  | nil => exact fun c hc => absurd hc List.not_mem_nil
  | append_singleton words w ih =>
    rw [ofWords_append_singleton]
    exact ih.extend (describes_ofWords words) w

theorem resolve_tokens_of_resolve (h : chain.resolve = .ok root) :
    Expectation.resolve chain.tokens = .ok root := by
  unfold resolve resolution at h
  split at h
  · cases h
  · split_ifs at h
    exact h

theorem Unmixed.resolve (h : chain.Unmixed) (hresolve : chain.resolve = .ok root) : root.Unmixed := by
  intro v t hmem
  rcases mem_leaves_of_resolve (resolve_tokens_of_resolve hresolve) hmem with
    ⟨c, hc, hleaf⟩ | ⟨s, hs⟩
  · exact h c (List.mem_reverse.mp hc) v t hleaf
  · cases s <;> cases hs

end Unmixed

/-! ## Chains of calls -/

/-- **The state of a chain describes its last token.** Before the first token, and only then, a chain
is at the start. Hence a legal modifier changes the tolerance, its mode or the case of the last token,
and no other token and nothing else in that one. No chain ever holds an equality that has a tolerance
and ignores case as well, and none stands for a constraint with one. -/
theorem lastToken_ofWords (words : List Word) :
    let chain := ofWords words
    (chain.state = .start ↔ chain.tokens = []) ∧
    chain.state.Describes chain.tokens.getLast? ∧
    (∀ amount, chain.Admits .within → ∃ v, ChangesLast chain (chain.extend (.within amount))
      (.equal v none false) (.equal v (some ⟨amount, .linear⟩) false)) ∧
    (chain.Admits .percent → ∃ v amount, ChangesLast chain (chain.extend .percent)
      (.equal v (some ⟨amount, .linear⟩) false) (.equal v (some ⟨amount, .percent⟩) false)) ∧
    (chain.Admits .ignoreCase →
      (∃ v, ChangesLast chain (chain.extend .ignoreCase) (.equal v none false) (.equal v none true)) ∨
        ∃ t p, ChangesLast chain (chain.extend .ignoreCase) (.text t p false) (.text t p true)) ∧
    (∀ c, .operand c ∈ chain.tokens → c.Unmixed) ∧
    ∀ root, chain.resolve = .ok root → root.Unmixed := by
  intro chain
  have hlast : chain.state.Describes chain.reversed.head? := describes_ofWords words
  have hunmixed : chain.Unmixed := unmixed_ofWords words
  refine ⟨?_, ?_, fun amount h => changesLast_of_within hlast h amount, changesLast_of_percent hlast,
    changesLast_of_ignoreCase hlast, fun c hc => hunmixed c (List.mem_reverse.mp hc),
    fun root hroot => hunmixed.resolve hroot⟩
  · rw [tokens, List.reverse_eq_nil_iff]
    exact (sound_ofWords words).start_iff
  · rw [tokens, List.getLast?_reverse]
    exact hlast

/-- Three chains that admit a modifier each, and one in which all of them took effect. -/
theorem lastToken_ofWords_modified :
    let amount : Binary64 := .ofInt 5
    let equality := ofWords [.not, .equalTo .null]
    let tolerance := ofWords [.isNull, .or, .equalTo .null, .within amount]
    let text := ofWords [.throws, .containing "disk"]
    let modified := ofWords
      [.not, .equalTo .null, .within amount, .percent, .joined, .containing "disk", .ignoreCase]
    let percentage : Constraint := .equal .null (some ⟨amount, .percent⟩) false
    let root : Constraint := .and (.not percentage) (.text "disk" .anywhere true)
    (equality.Admits .within ∧ ∃ v, ChangesLast equality (equality.extend (.within amount))
      (.equal v none false) (.equal v (some ⟨amount, .linear⟩) false)) ∧
    (tolerance.Admits .percent ∧ ∃ v a, ChangesLast tolerance (tolerance.extend .percent)
      (.equal v (some ⟨a, .linear⟩) false) (.equal v (some ⟨a, .percent⟩) false)) ∧
    (text.Admits .ignoreCase ∧
      ((∃ v, ChangesLast text (text.extend .ignoreCase) (.equal v none false) (.equal v none true)) ∨
        ∃ t p, ChangesLast text (text.extend .ignoreCase) (.text t p false) (.text t p true))) ∧
    (.operand percentage ∈ modified.tokens ∧ percentage.Unmixed) ∧
    modified.resolve = .ok root ∧ root.Unmixed := by
  intro amount equality tolerance text modified percentage root
  have hequality : equality.Admits .within := ⟨rfl, rfl⟩
  have htolerance : tolerance.Admits .percent := ⟨rfl, rfl⟩
  have htext : text.Admits .ignoreCase := ⟨rfl, rfl⟩
  have htokens : modified.tokens = [.operator (.unary .not), .operand percentage,
    .operator (.connective .and), .operand (.text "disk" .anywhere true)] := rfl
  have hmem : .operand percentage ∈ modified.tokens := by simp [htokens]
  have hroot : modified.resolve = .ok root := rfl
  obtain ⟨-, -, hwithin, -⟩ := lastToken_ofWords [.not, .equalTo .null]
  obtain ⟨-, -, -, hpercent, -⟩ := lastToken_ofWords [.isNull, .or, .equalTo .null, .within amount]
  obtain ⟨-, -, -, -, hignoreCase, -⟩ := lastToken_ofWords [.throws, .containing "disk"]
  obtain ⟨-, -, -, -, -, hoperands, hresolve⟩ := lastToken_ofWords
    [.not, .equalTo .null, .within amount, .percent, .joined, .containing "disk", .ignoreCase]
  exact ⟨⟨hequality, hwithin amount hequality⟩, ⟨htolerance, hpercent htolerance⟩,
    ⟨htext, hignoreCase htext⟩, ⟨hmem, hoperands _ hmem⟩, hroot, hresolve root hroot⟩

end Chain

end Expectation
