import Expectation.Constraint.Verdict
import Expectation.Proofs.Token.Content

/-!
# Resolution does not look at operands

What an operand expects has no influence on what becomes of a stream. A stream either fails for one
reason whatever its operands are, or is put together to a tree in which each operand has its place. So a
function may be applied to the operands before resolution or to their places in the tree.

* `Assembly`, `Assembly.tree`: a tree in which the operands can be told from the rest of it;
* `Token.mapOperand`: another constraint for an operand;
* `Sketch`, `Sketch.Moves`: the stages of resolution for all functions on operands at once;
* **`Sketch.ends_or_fails`**: the course of resolution, which is the same for all of them;
* `Constraint.at?`: the node in a place;
* **`resolve_mapOperand`**: streams, and the fallback tolerance among the functions.
-/

namespace Expectation

/-! ## Trees and their operands -/

/-- A tree put together from operands. Another node is a selector that stands alone, or belongs to an
operator. -/
inductive Assembly where
  | operand (c : Constraint)
  | alone (s : Selector)
  | unary (u : Unary) (inner : Assembly)
  | connective (k : Connective) (left right : Assembly)
  | selector (s : Selector) (inner : Assembly)

namespace Assembly

/-- The tree, with a function applied to each operand in its place. -/
def tree (f : Constraint → Constraint) : Assembly → Constraint
  | operand c => f c
  | alone s => s.alone
  | unary u a => u.apply (a.tree f)
  | connective k a b => k.apply (a.tree f) (b.tree f)
  | selector s a => s.apply (a.tree f)

/-- The operands from left to right. -/
def operands : Assembly → List Constraint
  | operand c => [c]
  | alone _ => []
  | unary _ a | selector _ a => a.operands
  | connective _ a b => a.operands ++ b.operands

end Assembly

/-- The token with a function applied to the constraint of an operand. -/
def Token.mapOperand (f : Constraint → Constraint) : Token → Token
  | operand c => operand (f c)
  | operator op => operator op

section Map

variable (f : Constraint → Constraint) (tokens : List Token)

theorem map_mapOperand_id : tokens.map (Token.mapOperand id) = tokens := by
  have hid : Token.mapOperand id = id := by
    funext t
    cases t <;> rfl
  rw [hid, List.map_id]

@[simp] theorem Follower.of_map : Follower.of (tokens.map (.mapOperand f)) = .of tokens := by
  match tokens with
  | [] | .operand _ :: _ | .operator _ :: _ => rfl

@[simp] theorem forces_map : forces (tokens.map (.mapOperand f)) = forces tokens := by
  match tokens with
  | [] | .operand _ :: _ | .operator _ :: _ => rfl

end Map

/-! ## One reduction -/

namespace Pending

/-- The reduction of a waiting operator, put together from its operands. -/
def assembled? (p : Pending) (operands : List Assembly) : Option (List Assembly) :=
  match p.operator, operands with
  | .unary u, a :: rest => some (.unary u a :: rest)
  | .connective k, right :: left :: rest => some (.connective k left right :: rest)
  | .selector s, operands =>
    if p.follower.endsOperand then some (.alone s :: operands)
    else match operands with
      | a :: rest => some (.selector s a :: rest)
      | [] => none
  | _, _ => none

variable {p : Pending} {operands operands' : List Assembly}

theorem reduced?_map_tree (p : Pending) (operands : List Assembly) (f : Constraint → Constraint) :
    p.reduced? (operands.map (Assembly.tree f)) =
      (p.assembled? operands).map (List.map (Assembly.tree f)) := by
  obtain ⟨op, follower⟩ := p
  match op, operands with
  | .unary u, [] | .unary u, a :: rest => rfl
  | .connective k, [] | .connective k, [a] | .connective k, right :: left :: rest => rfl
  | .selector s, [] | .selector s, a :: rest => cases follower <;> rfl

theorem operands_of_assembled? (h : p.assembled? operands = some operands') :
    operands'.reverse.flatMap Assembly.operands = operands.reverse.flatMap Assembly.operands := by
  obtain ⟨op, follower⟩ := p
  match op, operands with
  | .unary u, a :: rest | .connective k, right :: left :: rest =>
    obtain rfl := Option.some.inj h
    simp [Assembly.operands]
  | .selector s, operands =>
    cases hends : follower.endsOperand with
    | true =>
      obtain rfl : .alone s :: operands = operands' := by simpa [assembled?, hends] using h
      simp [Assembly.operands]
    | false =>
      cases operands with
      | nil => simp [assembled?, hends] at h
      | cons a rest =>
        obtain rfl : .selector s a :: rest = operands' := by simpa [assembled?, hends] using h
        simp [Assembly.operands]

end Pending

/-! ## The course of resolution -/

/-- A stage of resolution, in which the operands so far have been put together from those of the stream. -/
structure Sketch where
  tokens : List Token
  waiting : List Pending
  operands : List Assembly

namespace Sketch

/-- The stage when a function is applied to the operands. -/
def stage (f : Constraint → Constraint) (s : Sketch) : Stage :=
  ⟨s.tokens.map (.mapOperand f), s.waiting, s.operands.map (Assembly.tree f)⟩

/-- The operands of the stream, taken in and to come. -/
def content (s : Sketch) : List Constraint :=
  s.operands.reverse.flatMap Assembly.operands ++ s.tokens.filterMap Token.operand?

/-- The machine goes from the first stage to the second one in one step, whatever function is applied to
the operands, and loses none of them. -/
structure Moves (s t : Sketch) : Prop where
  stage : ∀ f, (s.stage f).Moves (t.stage f)
  content : s.content = t.content

/-- The operands run out from here on, on behalf of one operator whatever function is applied. -/
def Fails (s : Sketch) : Prop := ∃ operator, ∀ f, (s.stage f).FailsBy operator

variable {tokens : List Token} {waiting : List Pending} {operands : List Assembly} {p : Pending}
  {s t : Sketch}

theorem Moves.toDo_lt (h : s.Moves t) : (t.stage id).toDo < (s.stage id).toDo := (h.stage id).toDo_lt

theorem Moves.fails (h : s.Moves t) (ht : t.Fails) : s.Fails := by
  obtain ⟨operator, hfails⟩ := ht
  exact ⟨operator, fun f => (h.stage f).leads.failsBy (hfails f)⟩

theorem moves_or_fails_of_forces (hforces : forces tokens p.operator = true) :
    (∃ t, Moves ⟨tokens, p :: waiting, operands⟩ t) ∨ Fails ⟨tokens, p :: waiting, operands⟩ := by
  have hforced (f) : forces (tokens.map (.mapOperand f)) p.operator = true := by
    rw [forces_map, hforces]
  have hreduced (f) := p.reduced?_map_tree operands f
  cases hassembled : p.assembled? operands with
  | some operands' =>
    refine .inl ⟨⟨tokens, waiting, operands'⟩, fun f => ?_, ?_⟩
    · have hreduces := Pending.reduces_of_reduced? ((hreduced f).trans (by rw [hassembled]; rfl))
      exact .reduces (hforced f) hreduces
    · simp only [content, Pending.operands_of_assembled? hassembled]
  | none =>
    have hnone (f) : p.reduced? (operands.map (Assembly.tree f)) = none := by
      rw [hreduced, hassembled, Option.map_none]
    exact .inr ⟨p.operator.name, fun f => Stage.failsBy_of_reduced?_eq_none (hforced f) (hnone f)⟩

theorem moves_of_head {op : Operator}
    (hhead : ∀ p ∈ waiting.head?, bindsBefore op p.operator = false) :
    ∃ t, Moves ⟨.operator op :: tokens, waiting, operands⟩ t := by
  cases halone : op.standsAlone (.of tokens) with
  | false =>
    refine ⟨⟨tokens, ⟨op, .of tokens⟩ :: waiting, operands⟩, fun f => ?_, rfl⟩
    rw [← Follower.of_map f] at halone ⊢
    exact .waits halone hhead
  | true =>
    cases op with
    | unary u | connective k => exact Bool.noConfusion halone
    | selector s =>
      refine ⟨⟨tokens, waiting, .alone s :: operands⟩, fun f => ?_, ?_⟩
      · rw [← Follower.of_map f] at halone
        exact .standsAlone halone hhead
      · simp [content, Assembly.operands, List.filterMap_cons, Token.operand?]

/-- **As long as resolution is not over, there is a next step**, the same for all functions on the
operands, unless operands are missing. -/
theorem moves_or_fails (h : ¬ (s.stage id).IsOver) : (∃ t, s.Moves t) ∨ s.Fails := by
  obtain ⟨tokens, waiting, operands⟩ := s
  match tokens, waiting with
  | [], [] => exact absurd ⟨rfl, rfl⟩ h
  | [], p :: waiting => exact moves_or_fails_of_forces rfl
  | .operand c :: tokens, waiting =>
    refine .inl ⟨⟨tokens, waiting, .operand c :: operands⟩, fun f => .operand (f c), ?_⟩
    simp [content, Assembly.operands, Token.operand?]
  | .operator op :: tokens, [] => exact .inl (moves_of_head (by simp))
  | .operator op :: tokens, p :: waiting =>
    cases hbinds : bindsBefore op p.operator with
    | true => exact moves_or_fails_of_forces hbinds
    | false => exact .inl (moves_of_head (by simp [hbinds]))

/-- **Resolution comes to its end or to an operator without operands**, for all functions on the operands
alike. -/
theorem ends_or_fails (s : Sketch) :
    (∃ operands : List Assembly, (∀ f, (s.stage f).Reaches ⟨[], [], operands.map (Assembly.tree f)⟩) ∧
      operands.reverse.flatMap Assembly.operands = s.content) ∨ s.Fails := by
  induction hn : (s.stage id).toDo using Nat.strongRecOn generalizing s with
  | ind n ih =>
    by_cases hover : (s.stage id).IsOver
    · obtain ⟨tokens, waiting, operands⟩ := s
      obtain ⟨htokens, rfl⟩ := hover
      obtain rfl := List.map_eq_nil_iff.mp htokens
      exact .inl ⟨operands, fun f => .refl, (List.append_nil _).symm⟩
    · rcases moves_or_fails hover with ⟨t, hmove⟩ | hfails
      · rcases ih _ (hn ▸ hmove.toDo_lt) t rfl with ⟨operands, hreach, hcontent⟩ | hfails
        · exact .inl ⟨operands, fun f => .head (hmove.stage f) (hreach f),
            hcontent.trans hmove.content.symm⟩
        · exact .inr (hmove.fails hfails)
      · exact .inr hfails

end Sketch

/-! ## Fallback tolerances -/

namespace Constraint

/-- The node that a turn leads to. -/
def child? : Constraint → Turn → Option Constraint
  | and a _, .left | or a _, .left => some a
  | and _ b, .right | or _ b, .right => some b
  | not c, .inner | items _ c, .inner | propertyIs _ c, .inner | attributeIs _ c, .inner
  | throwsMatching c, .inner => some c
  | _, _ => none

/-- The node at the end of a trail. -/
def at? (c : Constraint) : List Turn → Option Constraint
  | [] => some c
  | turn :: trail => (c.child? turn).bind (at? · trail)

variable (amount other : Binary64) (c : Constraint)

theorem child?_withFallback (turn : Turn) :
    (c.withFallback amount).child? turn = (c.child? turn).map (.withFallback amount) := by
  cases c <;> cases turn <;> rfl

theorem at?_withFallback (trail : List Turn) :
    (c.withFallback amount).at? trail = (c.at? trail).map (.withFallback amount) := by
  induction trail generalizing c with
  | nil => rfl
  | cons turn trail ih =>
    rw [at?, at?, child?_withFallback]
    cases c.child? turn with
    | none => rfl
    | some d => exact ih d

variable {c} in
theorem at?_withFallback_of_explicit {trail : List Turn} {e : Value} {t : Tolerance} {i : Bool}
    (h : c.at? trail = some (equal e (some t) i)) :
    (c.withFallback amount).at? trail = some (equal e (some t) i) := by
  rw [at?_withFallback, h]
  rfl

theorem nodeCount_withFallback : (c.withFallback amount).nodeCount = c.nodeCount := by
  induction c with
  | equal e t i => rfl
  | _ => simp only [withFallback, nodeCount, *]

theorem withFallback_withFallback :
    (c.withFallback amount).withFallback other = c.withFallback amount := by
  induction c with
  | equal e t i => rfl
  | _ => simp only [withFallback, *]

end Constraint

theorem Assembly.withFallback_tree (amount : Binary64) (a : Assembly) :
    (a.tree id).withFallback amount = a.tree (.withFallback amount) := by
  induction a with
  | operand c => rfl
  | alone s => cases s <;> rfl
  | unary u a ih =>
    rw [tree, tree, ← ih]
    cases u <;> rfl
  | connective k a b iha ihb =>
    rw [tree, tree, ← iha, ← ihb]
    cases k <;> rfl
  | selector s a ih =>
    rw [tree, tree, ← ih]
    cases s <;> rfl

/-! ## Streams -/

theorem resolve_map_cases (tokens : List Token) :
    (∃ e, ∀ f, resolve (tokens.map (.mapOperand f)) = .error e) ∨
      ∃ a : Assembly, a.operands = tokens.filterMap Token.operand? ∧
        ∀ f, resolve (tokens.map (.mapOperand f)) = .ok (a.tree f) := by
  by_cases hempty : tokens = []
  · subst hempty
    exact .inl ⟨.emptyExpression, fun f => rfl⟩
  have hne (f) : tokens.map (Token.mapOperand f) ≠ [] := by simpa using hempty
  rcases Sketch.ends_or_fails ⟨tokens, [], []⟩ with ⟨operands, hreach, hcontent⟩ | ⟨operator, hfails⟩
  · have hresolve (f) := resolve_of_reaches (hne f) (hreach f)
    match operands with
    | [] => exact .inl ⟨.unreduced 0, hresolve⟩
    | [a] => exact .inr ⟨a, by simpa [Sketch.content] using hcontent, hresolve⟩
    | a :: b :: rest =>
      refine .inl ⟨.unreduced (rest.length + 2), fun f => ?_⟩
      rw [hresolve, List.map_cons, List.map_cons, outcome, List.length_cons, List.length_cons,
        List.length_map]
      simp
  · exact .inl ⟨_, fun f => (resolution_of_failsBy (hne f) (hfails f)).1⟩

theorem resolve_map_withFallback (amount : Binary64) (tokens : List Token) :
    resolve (tokens.map (.mapOperand (.withFallback amount))) =
      (resolve tokens).map (.withFallback amount) := by
  conv_rhs => rw [← map_mapOperand_id tokens]
  rcases resolve_map_cases tokens with ⟨e, herror⟩ | ⟨a, -, hok⟩
  · rw [herror, herror]
    rfl
  · rw [hok, hok, Except.map, a.withFallback_tree]

/-- **Resolution does not look at operands.** With functions applied to its operands a stream still fails,
for the same reason, or it still resolves, and in the tree the functions are applied to the operands in
their places and nothing else is changed. So the fallback may be given to the operands or to the resolved
tree. It leaves an equality with a tolerance of its own as it is, adds no node, and keeps out a second
fallback. -/
theorem resolve_mapOperand (tokens : List Token) :
    ((∃ e, resolve tokens = .error e ∧ ∀ f, resolve (tokens.map (.mapOperand f)) = .error e) ∨
      ∃ a : Assembly, a.operands = tokens.filterMap Token.operand? ∧
        resolve tokens = .ok (a.tree id) ∧
        ∀ f, resolve (tokens.map (.mapOperand f)) = .ok (a.tree f)) ∧
    ∀ amount,
      resolve (tokens.map (.mapOperand (.withFallback amount))) =
        (resolve tokens).map (.withFallback amount) ∧
      ∀ c : Constraint,
        (∀ trail e t i, c.at? trail = some (.equal e (some t) i) →
          (c.withFallback amount).at? trail = some (.equal e (some t) i)) ∧
        (c.withFallback amount).nodeCount = c.nodeCount ∧
        ∀ other, (c.withFallback amount).withFallback other = c.withFallback amount := by
  refine ⟨?_, fun amount => ⟨resolve_map_withFallback amount tokens, fun c =>
    ⟨fun _ _ _ _ => Constraint.at?_withFallback_of_explicit amount, c.nodeCount_withFallback amount,
      fun other => c.withFallback_withFallback amount other⟩⟩⟩
  -- the stream itself is the one that the identity is applied to
  rcases resolve_map_cases tokens with ⟨e, herror⟩ | ⟨a, hoperands, hok⟩
  · exact .inl ⟨e, map_mapOperand_id tokens ▸ herror id, herror⟩
  · exact .inr ⟨a, hoperands, map_mapOperand_id tokens ▸ hok id, hok⟩

end Expectation
