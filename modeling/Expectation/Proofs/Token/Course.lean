import Mathlib.Logic.Relation
import Expectation.Proofs.Token.Machine

/-!
# The course of resolution

Whatever the stream, resolution goes from stage to stage until all tokens are taken in and no operator
waits, unless it comes to an operator that finds too few operands.

* `Pending.Reduces`: what a reduction makes of the operands;
* `Stage.Moves`, `Stage.Reaches`: one step that succeeds, and any number of them;
* `Stage.FailsBy`, `Stage.Fails`: the operands run out from here on;
* **`Stage.ends_or_fails`**: there is no other way to end;
* **`resolve_cases`**: what becomes of a stream, by its course.
-/

namespace Expectation

/-! ## One reduction -/

/-- A waiting operator replaces operands by the constraint it makes of them. -/
inductive Pending.Reduces : Pending → List Constraint → List Constraint → Prop
  | unary (u : Unary) (f : Follower) (c : Constraint) (rest : List Constraint) :
      Reduces ⟨.unary u, f⟩ (c :: rest) (u.apply c :: rest)
  | connective (k : Connective) (f : Follower) (left right : Constraint) (rest : List Constraint) :
      Reduces ⟨.connective k, f⟩ (right :: left :: rest) (k.apply left right :: rest)
  | alone (s : Selector) {f : Follower} (h : f.endsOperand = true) (operands : List Constraint) :
      Reduces ⟨.selector s, f⟩ operands (s.alone :: operands)
  | selector (s : Selector) {f : Follower} (h : f.endsOperand = false) (c : Constraint)
      (rest : List Constraint) : Reduces ⟨.selector s, f⟩ (c :: rest) (s.apply c :: rest)

section Reduces

variable {p : Pending} {operands operands' : List Constraint}

theorem Pending.Reduces.reduced? (h : p.Reduces operands operands') :
    p.reduced? operands = some operands' := by
  cases h with
  | unary u f c rest | connective k f left right rest => rfl
  | alone s h operands | selector s h c rest => simp [Pending.reduced?, h]

theorem Pending.reduces_of_reduced? (h : p.reduced? operands = some operands') :
    p.Reduces operands operands' := by
  obtain ⟨op, f⟩ := p
  cases op with
  | unary u =>
    cases operands with
    | nil => cases h
    | cons c rest =>
      obtain rfl := Option.some.inj h
      exact .unary u f c rest
  | connective k =>
    match operands with
    | [] | [c] => cases h
    | right :: left :: rest =>
      obtain rfl := Option.some.inj h
      exact .connective k f left right rest
  | selector s =>
    cases hf : f.endsOperand with
    | true =>
      simp only [Pending.reduced?, hf, if_true, Option.some.injEq] at h
      exact h ▸ .alone s hf operands
    | false =>
      cases operands with
      | nil => simp [Pending.reduced?, hf] at h
      | cons c rest =>
        simp only [Pending.reduced?, hf, Bool.false_eq_true, if_false, Option.some.injEq] at h
        exact h ▸ .selector s hf c rest

theorem Pending.Reduces.ne_nil (h : p.Reduces operands operands') : operands' ≠ [] := by
  cases h <;> exact List.cons_ne_nil _ _

end Reduces

namespace Stage

/-! ## One step -/

/-- The machine goes from the first stage to the second one in one step. -/
inductive Moves : Stage → Stage → Prop
  | operand {tokens : List Token} {waiting : List Pending} {operands : List Constraint}
      (c : Constraint) :
      Moves ⟨.operand c :: tokens, waiting, operands⟩ ⟨tokens, waiting, c :: operands⟩
  | waits {tokens : List Token} {waiting : List Pending} {operands : List Constraint} {op : Operator}
      (halone : op.standsAlone (.of tokens) = false)
      (hhead : ∀ p ∈ waiting.head?, bindsBefore op p.operator = false) :
      Moves ⟨.operator op :: tokens, waiting, operands⟩
        ⟨tokens, ⟨op, .of tokens⟩ :: waiting, operands⟩
  | standsAlone {tokens : List Token} {waiting : List Pending} {operands : List Constraint}
      {s : Selector} (halone : (Follower.of tokens).endsOperand = true)
      (hhead : ∀ p ∈ waiting.head?, bindsBefore (.selector s) p.operator = false) :
      Moves ⟨.operator (.selector s) :: tokens, waiting, operands⟩
        ⟨tokens, waiting, s.alone :: operands⟩
  | reduces {tokens : List Token} {waiting : List Pending} {operands operands' : List Constraint}
      {p : Pending} (hforces : forces tokens p.operator = true)
      (hreduces : p.Reduces operands operands') :
      Moves ⟨tokens, p :: waiting, operands⟩ ⟨tokens, waiting, operands'⟩

/-- The machine goes from the first stage to the second one in some steps. -/
abbrev Reaches : Stage → Stage → Prop := Relation.ReflTransGen Moves

/-- All tokens are taken in, and no operator waits. -/
def IsOver (s : Stage) : Prop := s.tokens = [] ∧ s.waiting = []

/-- The operands run out from here on, on behalf of this operator, and none is left when they do. -/
def FailsBy (operator : String) (s : Stage) : Prop :=
  ∀ reductions, ∃ reductions',
    s.run reductions = (.error (.operandUnderflow operator), ⟨[], reductions'⟩)

/-- The operands run out from here on. -/
def Fails (s : Stage) : Prop := ∃ operator, s.FailsBy operator

variable {s t : Stage} {tokens : List Token} {waiting : List Pending}
  {operands operands' : List Constraint} {p : Pending}

theorem Moves.leads (h : s.Moves t) : s.Leads t := by
  cases h with
  | operand c => exact leads_operand c
  | waits halone hhead => exact leads_waits halone hhead
  | standsAlone halone hhead =>
    exact leads_standsAlone halone hhead (Pending.Reduces.alone _ halone _).reduced?
  | reduces hforces hreduces => exact leads_reduced hforces hreduces.reduced?

theorem Reaches.leads (h : s.Reaches t) : s.Leads t := by
  induction h with
  | refl => exact fun reductions => ⟨reductions, rfl⟩
  | tail _ hmove ih => exact ih.trans hmove.leads

theorem Leads.failsBy {operator : String} (h : s.Leads t) (ht : t.FailsBy operator) :
    s.FailsBy operator := by
  intro reductions
  obtain ⟨reductions', hlead⟩ := h reductions
  obtain ⟨reductions'', hfail⟩ := ht reductions'
  exact ⟨reductions'', hlead.trans hfail⟩

theorem Leads.fails (h : s.Leads t) (ht : t.Fails) : s.Fails := by
  obtain ⟨operator, hrun⟩ := ht
  exact ⟨operator, h.failsBy hrun⟩

theorem failsBy_of_reduced?_eq_none (hforces : forces tokens p.operator = true)
    (hreduced : p.reduced? operands = none) :
    FailsBy p.operator.name ⟨tokens, p :: waiting, operands⟩ := by
  refine fun reductions => ⟨⟨p.operator, operands.length⟩ :: reductions, ?_⟩
  have hsettle := run_settle p operands reductions
  rw [hreduced] at hsettle
  unfold run
  rw [feed_of_forces hforces, run_bind_error hsettle]

theorem moves_or_fails_of_forces (hforces : forces tokens p.operator = true) :
    (∃ t, Moves ⟨tokens, p :: waiting, operands⟩ t) ∨ Fails ⟨tokens, p :: waiting, operands⟩ := by
  cases hreduced : p.reduced? operands with
  | some operands' => exact .inl ⟨_, .reduces hforces (Pending.reduces_of_reduced? hreduced)⟩
  | none => exact .inr ⟨_, failsBy_of_reduced?_eq_none hforces hreduced⟩

theorem moves_of_head {op : Operator}
    (hhead : ∀ p ∈ waiting.head?, bindsBefore op p.operator = false) :
    ∃ t, Moves ⟨.operator op :: tokens, waiting, operands⟩ t := by
  cases halone : op.standsAlone (.of tokens) with
  | false => exact ⟨_, .waits halone hhead⟩
  | true =>
    -- only a selector stands alone
    cases op with
    | unary u | connective k => exact Bool.noConfusion halone
    | selector s => exact ⟨_, .standsAlone halone hhead⟩

/-- **As long as resolution is not over, there is a next step**, unless operands are missing. -/
theorem moves_or_fails (h : ¬ s.IsOver) : (∃ t, s.Moves t) ∨ s.Fails := by
  obtain ⟨tokens, waiting, operands⟩ := s
  match tokens, waiting with
  | [], [] => exact absurd ⟨rfl, rfl⟩ h
  | [], p :: waiting => exact moves_or_fails_of_forces rfl
  | .operand c :: tokens, waiting => exact .inl ⟨_, .operand c⟩
  | .operator op :: tokens, [] => exact .inl (moves_of_head (by simp))
  | .operator op :: tokens, p :: waiting =>
    cases hbinds : bindsBefore op p.operator with
    | true => exact moves_or_fails_of_forces hbinds
    | false => exact .inl (moves_of_head (by simp [hbinds]))

theorem Moves.ne_nil (h : s.Moves ⟨tokens, [], operands⟩) : operands ≠ [] := by
  cases h with
  | operand c => exact List.cons_ne_nil _ _
  | standsAlone halone hhead => exact List.cons_ne_nil _ _
  | reduces hforces hreduces => exact hreduces.ne_nil

/-! ## The end -/

/-- What is left to do: a token may have to be taken in and to be reduced later. -/
def toDo (s : Stage) : Nat := 2 * s.tokens.length + s.waiting.length

theorem Moves.toDo_lt (h : s.Moves t) : t.toDo < s.toDo := by
  cases h <;> simp only [toDo, List.length_cons] <;> omega

/-- **Resolution comes to its end or to an operator without operands.** -/
theorem ends_or_fails (s : Stage) : (∃ operands, s.Reaches ⟨[], [], operands⟩) ∨ s.Fails := by
  -- each step leaves less to do, so that steps cannot go on for ever
  induction hn : s.toDo using Nat.strongRecOn generalizing s with
  | ind n ih =>
    by_cases hover : s.IsOver
    · obtain ⟨tokens, waiting, operands⟩ := s
      obtain ⟨rfl, rfl⟩ := hover
      exact .inl ⟨operands, .refl⟩
    · rcases moves_or_fails hover with ⟨t, hmove⟩ | hfails
      · rcases ih t.toDo (hn ▸ hmove.toDo_lt) t rfl with ⟨operands, hreach⟩ | hfails
        · exact .inl ⟨operands, .head hmove hreach⟩
        · exact .inr (hmove.leads.fails hfails)
      · exact .inr hfails

end Stage

/-! ## Streams -/

/-- What the operands that are left at the end amount to. -/
def outcome : List Constraint → Except BuildError Constraint
  | [c] => .ok c
  | operands => .error (.unreduced operands.length)

theorem outcome_cases (operands : List Constraint) :
    (∃ c, operands = [c] ∧ outcome operands = .ok c) ∨
      (operands.length ≠ 1 ∧ outcome operands = .error (.unreduced operands.length)) := by
  match operands with
  | [] => exact .inr ⟨by simp, rfl⟩
  | [c] => exact .inl ⟨c, rfl, rfl⟩
  | a :: b :: rest => exact .inr ⟨by simp, rfl⟩

section Streams

variable {tokens : List Token} {operands : List Constraint}

theorem resolve_of_reaches (hne : tokens ≠ [])
    (h : Stage.Reaches ⟨tokens, [], []⟩ ⟨[], [], operands⟩) : resolve tokens = outcome operands := by
  obtain ⟨reductions, hr⟩ := h.leads []
  have hfeed : (feed tokens []).run.run ⟨[], []⟩ = (.ok (), ⟨operands, reductions⟩) := hr
  have hsingle : ((feed tokens [] >>= fun _ => single).run.run ⟨[], []⟩).1 = outcome operands := by
    rw [run_bind_ok hfeed]
    match operands with
    | [] | [c] | a :: b :: rest => rfl
  rw [resolve, Resolution.of, if_neg (by simpa using hne)]
  exact hsingle

theorem resolution_of_failsBy {operator : String} (hne : tokens ≠ [])
    (h : Stage.FailsBy operator ⟨tokens, [], []⟩) :
    resolve tokens = .error (.operandUnderflow operator) ∧
      (Resolution.of tokens).bench.operands = [] := by
  obtain ⟨reductions, hr⟩ := h []
  have hfeed : (feed tokens []).run.run ⟨[], []⟩ =
    (.error (.operandUnderflow operator), ⟨[], reductions⟩) := hr
  have hresolution : Resolution.of tokens =
      ⟨.error (.operandUnderflow operator), ⟨[], reductions⟩⟩ := by
    have hbind := run_bind_error (f := fun _ => single) hfeed
    rw [Resolution.of, if_neg (by simpa using hne)]
    exact congrArg (fun r => Resolution.mk r.1 r.2) hbind
  exact ⟨congrArg Resolution.result hresolution,
    congrArg (fun r => r.bench.operands) hresolution⟩

/-- **What becomes of a stream.** Either resolution comes to its end, and the operands that are left
decide, or an operator finds too few of them, and none is left. -/
theorem resolve_cases (hne : tokens ≠ []) :
    (∃ operands, Stage.Reaches ⟨tokens, [], []⟩ ⟨[], [], operands⟩ ∧
      resolve tokens = outcome operands) ∨
    ∃ operator, resolve tokens = .error (.operandUnderflow operator) ∧
      (Resolution.of tokens).bench.operands = [] := by
  rcases Stage.ends_or_fails ⟨tokens, [], []⟩ with ⟨operands, hreach⟩ | hfails
  · exact .inl ⟨operands, hreach, resolve_of_reaches hne hreach⟩
  · obtain ⟨operator, hfails⟩ := hfails
    exact .inr ⟨operator, resolution_of_failsBy hne hfails⟩

theorem reaches_of_resolve_eq_ok {c : Constraint} (h : resolve tokens = .ok c) :
    Stage.Reaches ⟨tokens, [], []⟩ ⟨[], [], [c]⟩ := by
  have hne : tokens ≠ [] := by
    rintro rfl
    cases h
  rcases resolve_cases hne with ⟨operands, hreach, hresolve⟩ | ⟨operator, hresolve, -⟩
  · rw [h] at hresolve
    rcases outcome_cases operands with ⟨d, rfl, hok⟩ | ⟨-, herror⟩
    · obtain rfl : c = d := Except.ok.inj (hresolve.trans hok)
      exact hreach
    · exact absurd (hresolve.trans herror) (by simp)
  · exact absurd (h.symm.trans hresolve) (by simp)

end Streams

end Expectation
