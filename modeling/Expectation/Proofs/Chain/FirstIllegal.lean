import Expectation.Proofs.Chain.Legality

/-!
# The first illegal call

Chains are built by the calls that have names, and by one that appends any token in any step and moves
to any place. Whatever the series of calls, the first that is illegal where it is made freezes the chain.

* `Call`, `make`, `makeAll`: these calls, and series of them;
* `Call.IllegalIn`, `Legal`: illegal calls, and series without one;
* `make_cases`: one call;
* `makeAll_of_error`, `error_makeAll`, `exists_illegal`: series of calls;
* **`frozen_by_first_illegal`**: what a series with an illegal call leaves.
-/

namespace Expectation.Chain

/-! ## Calls -/

/-- A call on a chain. -/
inductive Call where
  | word (w : Word)
  /-- Appends any token by a call of any kind and moves to any place. -/
  | append (step : Step) (token : Token) (next : State)

/-- The kind of step that a call takes in some place. -/
def Call.stepIn (s : State) : Call → Option Step
  | word w => w.stepIn s
  | append step _ _ => some step

/-- Makes a call. -/
def make (chain : Chain) : Call → Chain
  | .word w => chain.extend w
  | .append step token next => chain.append step token next

/-- Makes calls in order. -/
def makeAll (chain : Chain) (calls : List Call) : Chain := calls.foldl make chain

/-- The call takes a step that its place does not permit. -/
structure Call.IllegalIn (s : State) (call : Call) (step : Step) : Prop where
  step_eq : call.stepIn s = some step
  refused : s.permits step = false

/-- Every call is legal in the place in which it is made. -/
def Legal (chain : Chain) : List Call → Prop
  | [] => True
  | call :: calls => (∀ step, ¬ call.IllegalIn chain.state step) ∧ (chain.make call).Legal calls

section Make

variable {chain : Chain} {call : Call} {calls : List Call} {step : Step}

theorem make_of_error (herror : chain.error.isSome = true) (call : Call) : chain.make call = chain := by
  cases call with
  | word w => exact extend_of_error herror w
  | append step token next => exact append_of_error herror token

/-- **Everything that a call can do** to a chain without an error: be refused, or leave it without one. -/
theorem make_cases (herror : chain.error = none) (call : Call) :
    (∃ step, call.IllegalIn chain.state step ∧ chain.make call = chain.refuse step) ∨
      (∀ step, ¬ call.IllegalIn chain.state step) ∧ (chain.make call).error = none := by
  cases call with
  | word w =>
    have hr := responds_extend herror w
    rw [make]
    generalize chain.extend w = chain' at hr
    cases hr with
    | refuses step hstep hpermits => exact .inl ⟨step, ⟨hstep, hpermits⟩, rfl⟩
    | advances hallows hadvances =>
      refine .inr ⟨fun step h => ?_, hadvances.error_eq.trans herror⟩
      rw [State.allows, show w.stepIn chain.state = some step from h.step_eq, Option.all_some,
        h.refused] at hallows
      exact Bool.noConfusion hallows
  | append step token next =>
    rw [make, Chain.append, attempt, herror, if_neg (by simp)]
    cases hpermits : chain.state.permits step with
    | true =>
      refine .inr ⟨fun step' h => ?_, rfl⟩
      obtain rfl : step = step' := Option.some.inj h.step_eq
      exact Bool.noConfusion (hpermits.symm.trans h.refused)
    | false => exact .inl ⟨step, ⟨rfl, hpermits⟩, rfl⟩

theorem make_of_illegal (herror : chain.error = none) (h : call.IllegalIn chain.state step) :
    chain.make call = chain.refuse step := by
  rcases make_cases herror call with ⟨step', h', hmake⟩ | ⟨hlegal, -⟩
  · obtain rfl : step' = step := Option.some.inj (h'.step_eq.symm.trans h.step_eq)
    exact hmake
  · exact absurd h (hlegal step)

theorem not_illegalIn_joined (s : State) (step : Step) : ¬ (Call.word .joined).IllegalIn s step := by
  rintro ⟨hstep, hrefused⟩
  rw [Call.stepIn, Word.stepIn] at hstep
  split at hstep
  · rename_i hcloses
    obtain rfl := Option.some.inj hstep
    rw [State.permits_connective, State.isResolvable_of_closesOperand hcloses] at hrefused
    exact Bool.noConfusion hrefused
  · cases hstep

/-! ## Series of calls -/

theorem makeAll_append (chain : Chain) (calls more : List Call) :
    chain.makeAll (calls ++ more) = (chain.makeAll calls).makeAll more :=
  List.foldl_append

theorem makeAll_of_error (herror : chain.error.isSome = true) (calls : List Call) :
    chain.makeAll calls = chain := by
  induction calls with
  | nil => rfl
  | cons call calls ih =>
    calc chain.makeAll (call :: calls) = (chain.make call).makeAll calls := rfl
      _ = chain.makeAll calls := by rw [make_of_error herror]
      _ = chain := ih

theorem error_makeAll (herror : chain.error = none) (h : chain.Legal calls) :
    (chain.makeAll calls).error = none := by
  induction calls generalizing chain with
  | nil => exact herror
  | cons call calls ih =>
    rcases make_cases herror call with ⟨step, hillegal, -⟩ | ⟨-, herror'⟩
    · exact absurd hillegal (h.1 step)
    · exact ih herror' h.2

theorem exists_illegal (h : ¬ chain.Legal calls) :
    ∃ before call after step, calls = before ++ call :: after ∧ chain.Legal before ∧
      call.IllegalIn (chain.makeAll before).state step := by
  induction calls generalizing chain with
  | nil => exact absurd trivial h
  | cons call calls ih =>
    by_cases hcall : ∀ step, ¬ call.IllegalIn chain.state step
    · obtain ⟨before, call', after, step, rfl, hbefore, hillegal⟩ := ih fun hcalls => h ⟨hcall, hcalls⟩
      exact ⟨call :: before, call', after, step, rfl, ⟨hcall, hbefore⟩, hillegal⟩
    · push Not at hcall
      obtain ⟨step, hillegal⟩ := hcall
      exact ⟨[], call, calls, step, rfl, trivial, hillegal⟩

theorem makeAll_of_illegal {before after : List Call} (herror : chain.error = none)
    (hbefore : chain.Legal before) (h : call.IllegalIn (chain.makeAll before).state step) :
    chain.makeAll (before ++ call :: after) = (chain.makeAll before).refuse step := by
  have herror' := error_makeAll herror hbefore
  calc chain.makeAll (before ++ call :: after)
      = ((chain.makeAll before).make call).makeAll after := makeAll_append chain before (call :: after)
    _ = ((chain.makeAll before).refuse step).makeAll after := by rw [make_of_illegal herror' h]
    _ = (chain.makeAll before).refuse step := makeAll_of_error rfl after

end Make

/-- **The first illegal call freezes the chain.** A series of calls leaves an error just if one of them
is illegal where it is made. Then there is a first one, never the word that joins; the tokens and the
place are those that it found, its error is on record with its step, that place and the number of tokens,
and no later call changes any of these. -/
theorem frozen_by_first_illegal (calls : List Call) :
    ((empty.makeAll calls).error = none ↔ empty.Legal calls) ∧
    (¬ empty.Legal calls → ∃ before call after step, calls = before ++ call :: after ∧
      empty.Legal before ∧ call.IllegalIn (empty.makeAll before).state step) ∧
    ∀ before call after step, calls = before ++ call :: after → empty.Legal before →
      call.IllegalIn (empty.makeAll before).state step →
      (empty.makeAll calls).tokens = (empty.makeAll before).tokens ∧
      (empty.makeAll calls).state = (empty.makeAll before).state ∧
      (empty.makeAll calls).error = some (.illegalStep step (empty.makeAll before).state
        (empty.makeAll before).tokens.length) ∧
      call ≠ .word .joined := by
  refine ⟨⟨fun herror => ?_, error_makeAll rfl⟩, exists_illegal, ?_⟩
  · by_contra h
    obtain ⟨before, call, after, step, rfl, hbefore, hillegal⟩ := exists_illegal h
    rw [makeAll_of_illegal rfl hbefore hillegal] at herror
    exact Option.some_ne_none _ herror
  · rintro before call after step rfl hbefore hillegal
    rw [makeAll_of_illegal rfl hbefore hillegal, refuse, tokens, tokens, List.length_reverse]
    refine ⟨rfl, rfl, rfl, ?_⟩
    rintro rfl
    exact not_illegalIn_joined _ _ hillegal

/-- An operator appended in the step of a tolerance is legal after an equality. Before an operand nothing
is joined, and an operand right after one is refused; the calls after it are in vain. -/
theorem frozen_by_second_operand :
    let before : List Call := [.word (.equalTo .null),
      .append .within (.operator (.unary .not)) .awaitingOperand, .word .joined, .word .isNull]
    let refused : Call := .append .operand (.operand .isTrue) .start
    let chain := empty.makeAll (before ++ [refused, .word .joined, .word .isTrue, .word .percent])
    (empty.Legal before ∧ refused.IllegalIn .complete .operand) ∧
    chain.tokens = [.operand (.equal .null none false), .operator (.unary .not), .operand .isNull] ∧
    chain.state = .complete ∧ chain.error = some (.illegalStep .operand .complete 3) := by
  intro before refused chain
  have hlegal : empty.Legal before := (frozen_by_first_illegal before).1.mp rfl
  have hillegal : refused.IllegalIn .complete .operand := ⟨rfl, rfl⟩
  obtain ⟨-, -, hfrozen⟩ := frozen_by_first_illegal
    (before ++ [refused, .word .joined, .word .isTrue, .word .percent])
  obtain ⟨htokens, hstate, herror, -⟩ := hfrozen before refused _ .operand rfl hlegal hillegal
  exact ⟨⟨hlegal, hillegal⟩, htokens, hstate, herror⟩

end Expectation.Chain
