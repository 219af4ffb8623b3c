import Expectation.Token.Resolution

/-!
# Runs of resolution

What each part of resolution does to the bench, stated once so that later proofs need not unfold it.

* `Pending.reduced?`, `run_settle`: the effect of one reduction, which fails where operands are missing;
* `unwind_of_binds`, `unwind_of_not_binds`: one turn of the loop that reduces waiting operators;
* `feed_of_waits`, `feed_of_standsAlone`, `feed_of_forces`: one turn of the loop over the tokens;
* `Stage`, `Stage.Leads`: a point in the middle of resolution, and one that the machine comes to later;
* `resolve_of_leads`: a stream that leads to one operand is resolved to it.
-/

namespace Expectation

section Bind

variable {α β : Type} {m : Reducing α} {f : α → Reducing β} {b b' : Bench}

theorem run_bind_ok {a : α} (h : m.run.run b = (.ok a, b')) :
    (m >>= f).run.run b = (f a).run.run b' := by
  have hb : (m >>= f).run.run b =
      (ExceptT.bindCont f (m.run.run b).1).run (m.run.run b).2 := rfl
  rw [hb, h]
  rfl

theorem run_bind_error {e : BuildError} (h : m.run.run b = (.error e, b')) :
    (m >>= f).run.run b = (.error e, b') := by
  have hb : (m >>= f).run.run b =
      (ExceptT.bindCont f (m.run.run b).1).run (m.run.run b).2 := rfl
  rw [hb, h]
  rfl

end Bind

/-! ## One reduction -/

/-- The operands after the reduction of a waiting operator, if there are enough of them. -/
def Pending.reduced? (p : Pending) (operands : List Constraint) : Option (List Constraint) :=
  match p.operator, operands with
  | .unary u, c :: rest => some (u.apply c :: rest)
  | .connective k, right :: left :: rest => some (k.apply left right :: rest)
  | .selector s, operands =>
    if p.follower.endsOperand then some (s.alone :: operands)
    else match operands with
      | c :: rest => some (s.apply c :: rest)
      | [] => none
  | _, _ => none

theorem run_settle (p : Pending) (operands : List Constraint) (reductions : List Reduction) :
    p.settle.run.run ⟨operands, reductions⟩ =
      match p.reduced? operands with
      | some operands' => (.ok (), ⟨operands', ⟨p.operator, operands.length⟩ :: reductions⟩)
      | none =>
        (.error (.operandUnderflow p.operator.name),
          ⟨[], ⟨p.operator, operands.length⟩ :: reductions⟩) := by
  obtain ⟨op, follower⟩ := p
  match op, operands with
  | .unary u, [] => rfl
  | .unary u, c :: rest => rfl
  | .connective k, [] => rfl
  | .connective k, [c] => rfl
  | .connective k, right :: left :: rest => rfl
  | .selector s, operands =>
    cases follower <;> cases operands <;> rfl

theorem run_settle_of_reduced {p : Pending} {operands operands' : List Constraint}
    (h : p.reduced? operands = some operands') (reductions : List Reduction) :
    p.settle.run.run ⟨operands, reductions⟩ =
      (.ok (), ⟨operands', ⟨p.operator, operands.length⟩ :: reductions⟩) := by
  rw [run_settle, h]

/-! ## One turn of the loops -/

theorem unwind_of_binds {binds : Operator → Bool} {p : Pending} (h : binds p.operator = true)
    (waiting : List Pending) :
    unwind binds (p :: waiting) = p.settle >>= fun _ => unwind binds waiting := by
  rw [unwind, if_pos h]

theorem unwind_of_not_binds {binds : Operator → Bool} {p : Pending} (h : binds p.operator = false)
    (waiting : List Pending) : unwind binds (p :: waiting) = pure (p :: waiting) := by
  rw [unwind, if_neg (by simp [h])]

theorem unwind_of_head {binds : Operator → Bool} {waiting : List Pending}
    (h : ∀ p ∈ waiting.head?, binds p.operator = false) : unwind binds waiting = pure waiting := by
  cases waiting with
  | nil => rfl
  | cons p waiting => exact unwind_of_not_binds (h p rfl) waiting

/-- The next token has a waiting operator reduced. So does the end of the stream. -/
def forces : List Token → Operator → Bool
  | [], _ => true
  | .operand _ :: _, _ => false
  | .operator op :: _, waiting => bindsBefore op waiting

theorem feed_of_waits {op : Operator} {tokens : List Token} {waiting : List Pending}
    (halone : op.standsAlone (.of tokens) = false)
    (hhead : ∀ p ∈ waiting.head?, bindsBefore op p.operator = false) :
    feed (.operator op :: tokens) waiting = feed tokens (⟨op, .of tokens⟩ :: waiting) := by
  rw [feed, unwind_of_head hhead, pure_bind, if_neg (by simp [halone])]

theorem feed_of_standsAlone {op : Operator} {tokens : List Token} {waiting : List Pending}
    (halone : op.standsAlone (.of tokens) = true)
    (hhead : ∀ p ∈ waiting.head?, bindsBefore op p.operator = false) :
    feed (.operator op :: tokens) waiting =
      (⟨op, .of tokens⟩ : Pending).settle >>= fun _ => feed tokens waiting := by
  rw [feed, unwind_of_head hhead, pure_bind, if_pos halone]

theorem feed_of_forces {tokens : List Token} {p : Pending} (h : forces tokens p.operator = true)
    (waiting : List Pending) :
    feed tokens (p :: waiting) = p.settle >>= fun _ => feed tokens waiting := by
  match tokens with
  | [] => rw [feed, feed, unwind_of_binds rfl, bind_assoc]
  | .operand c :: rest => exact Bool.noConfusion h
  | .operator op :: rest =>
    have hbinds : bindsBefore op p.operator = true := h
    rw [feed, feed, unwind_of_binds hbinds, bind_assoc]

/-! ## Stages -/

/-- A point in the middle of resolution: the tokens to come, the operators that wait and the operands so
far. -/
structure Stage where
  tokens : List Token
  waiting : List Pending
  operands : List Constraint

namespace Stage

/-- Resolution from this point to the end of the stream. -/
def run (s : Stage) (reductions : List Reduction) : Except BuildError Unit × Bench :=
  (feed s.tokens s.waiting).run.run ⟨s.operands, reductions⟩

/-- The machine comes from the first stage to the second one without a failure on the way. -/
def Leads (s t : Stage) : Prop := ∀ reductions, ∃ reductions', s.run reductions = t.run reductions'

variable {s t u : Stage}

theorem Leads.trans (h : s.Leads t) (h' : t.Leads u) : s.Leads u := by
  intro reductions
  obtain ⟨reductions', hr⟩ := h reductions
  obtain ⟨reductions'', hr'⟩ := h' reductions'
  exact ⟨reductions'', hr.trans hr'⟩

variable {tokens : List Token} {waiting : List Pending} {operands operands' : List Constraint}

theorem leads_operand (c : Constraint) :
    Leads ⟨.operand c :: tokens, waiting, operands⟩ ⟨tokens, waiting, c :: operands⟩ :=
  fun reductions => ⟨reductions, rfl⟩

theorem leads_waits {op : Operator} (halone : op.standsAlone (.of tokens) = false)
    (hhead : ∀ p ∈ waiting.head?, bindsBefore op p.operator = false) :
    Leads ⟨.operator op :: tokens, waiting, operands⟩
      ⟨tokens, ⟨op, .of tokens⟩ :: waiting, operands⟩ := by
  intro reductions
  refine ⟨reductions, ?_⟩
  unfold run
  rw [feed_of_waits halone hhead]

theorem leads_standsAlone {op : Operator} (halone : op.standsAlone (.of tokens) = true)
    (hhead : ∀ p ∈ waiting.head?, bindsBefore op p.operator = false)
    (hreduced : Pending.reduced? ⟨op, .of tokens⟩ operands = some operands') :
    Leads ⟨.operator op :: tokens, waiting, operands⟩ ⟨tokens, waiting, operands'⟩ := by
  intro reductions
  refine ⟨⟨op, operands.length⟩ :: reductions, ?_⟩
  unfold run
  rw [feed_of_standsAlone halone hhead, run_bind_ok (run_settle_of_reduced hreduced reductions)]

theorem leads_reduced {p : Pending} (hforces : forces tokens p.operator = true)
    (hreduced : p.reduced? operands = some operands') :
    Leads ⟨tokens, p :: waiting, operands⟩ ⟨tokens, waiting, operands'⟩ := by
  intro reductions
  refine ⟨⟨p.operator, operands.length⟩ :: reductions, ?_⟩
  unfold run
  rw [feed_of_forces hforces, run_bind_ok (run_settle_of_reduced hreduced reductions)]

end Stage

theorem resolve_of_leads {tokens : List Token} {c : Constraint} (hne : tokens ≠ [])
    (h : Stage.Leads ⟨tokens, [], []⟩ ⟨[], [], [c]⟩) : resolve tokens = .ok c := by
  obtain ⟨reductions, hr⟩ := h []
  have hfeed : (feed tokens []).run.run ⟨[], []⟩ = (.ok (), ⟨[c], reductions⟩) := hr
  have hsingle : ((feed tokens [] >>= fun _ => single).run.run ⟨[], []⟩).1 = .ok c := by
    rw [run_bind_ok hfeed]
    rfl
  rw [resolve, Resolution.of, if_neg (by simpa using hne)]
  exact hsingle

end Expectation
