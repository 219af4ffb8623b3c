import Mathlib.Data.List.Induction
import Expectation.Chain.Word
import Expectation.Proofs.Token.Descent

/-!
# Legal chains

The state of a chain decides which calls are legal, and resolution finds out on its own whether the
tokens make sense. The two agree: the chains that may be resolved are the well-formed streams.

* `Word.stepIn`, `State.allows`: the legal calls;
* `Advances`, `responds_extend`: everything that a call can do to a chain;
* `AllLegal`, `FirstIllegal`, `allLegal_iff`: the legal chains, and what is recorded of the others;
* `Sound`, `sound_ofWords`: the state says what the tokens so far still need;
* `wordOf`, `accepts_of_series`: calls for a given well-formed stream;
* **`resolve_ofWords`**: the outcome of every chain of calls.
-/

namespace Expectation.Chain

/-! ## The effect of a call -/

/-- The kind of step that a call takes in some place. The word that joins takes none where an operand is
still open. -/
def Word.stepIn (s : State) : Word → Option Step
  | .within _ => some .within
  | .percent => some .percent
  | .ignoreCase => some .ignoreCase
  | .not | .quantified _ => some .unary
  | .and | .or => some .connective
  | .joined => if s.closesOperand then some .connective else none
  | .property _ | .attribute _ | .throws => some .selector
  | _ => some .operand

/-- The call is legal in this place. -/
def State.allows (s : State) (w : Word) : Bool := (w.stepIn s).all s.permits

/-- The place after an operand. -/
def State.after : Constraint → State
  | .equal _ none false => equality
  | .equal _ (some ⟨_, .linear⟩) false => tolerance
  | .text _ _ false => text
  | _ => complete

/-- What a legal call makes of a chain. -/
inductive Advances (chain : Chain) : Chain → Prop
  | stays (h : chain.state.closesOperand = false) : Advances chain chain
  | operand (c : Constraint) (h : chain.state.permits .operand = true) :
      Advances chain ⟨.operand c :: chain.reversed, .after c, chain.error⟩
  | unary (u : Unary) (h : chain.state.permits .unary = true) :
      Advances chain ⟨.operator (.unary u) :: chain.reversed, .awaitingOperand, chain.error⟩
  | connective (k : Connective) (h : chain.state.permits .connective = true) :
      Advances chain ⟨.operator (.connective k) :: chain.reversed, .awaitingOperand, chain.error⟩
  | selector (s : Selector) (h : chain.state.permits .selector = true) :
      Advances chain ⟨.operator (.selector s) :: chain.reversed, .afterSelector, chain.error⟩
  | within (amount : Binary64) (h : chain.state.permits .within = true) :
      Advances chain ⟨editLast (setTolerance amount) chain.reversed, .tolerance, chain.error⟩
  | percent (h : chain.state.permits .percent = true) :
      Advances chain ⟨editLast setPercent chain.reversed, .complete, chain.error⟩
  | ignoreCase (h : chain.state.permits .ignoreCase = true) :
      Advances chain ⟨editLast setIgnoreCase chain.reversed, .complete, chain.error⟩

/-- The chain with the record of an illegal step. -/
def refuse (chain : Chain) (step : Step) : Chain :=
  { chain with error := some (.illegalStep step chain.state chain.reversed.length) }

/-- What a chain without an error becomes by a call: an illegal step is recorded, and a legal one is
made. -/
inductive Responds (chain : Chain) (w : Word) : Chain → Prop
  | refuses (step : Step) (hstep : w.stepIn chain.state = some step)
      (hpermits : chain.state.permits step = false) : Responds chain w (chain.refuse step)
  | advances {chain' : Chain} (hallows : chain.state.allows w = true) (h : Advances chain chain') :
      Responds chain w chain'

section Extend

variable {chain chain' : Chain} {w : Word} {step : Step} {next : State}

theorem responds_of_attempt {change : Chain → Chain} (herror : chain.error = none)
    (hstep : w.stepIn chain.state = some step)
    (hchange : chain.state.permits step = true → Advances chain (change chain)) :
    Responds chain w (chain.attempt step change) := by
  rw [attempt, herror, if_neg (by simp)]
  cases hpermits : chain.state.permits step with
  | true =>
    rw [if_pos rfl]
    refine .advances ?_ (hchange hpermits)
    rw [State.allows, hstep]
    exact hpermits
  | false =>
    rw [if_neg (by simp)]
    exact .refuses step hstep hpermits

theorem responds_of_append {token : Token} (herror : chain.error = none)
    (hstep : w.stepIn chain.state = some step)
    (hextend : chain.extend w = chain.append step token next)
    (hchange : chain.state.permits step = true →
      Advances chain ⟨token :: chain.reversed, next, chain.error⟩) :
    Responds chain w (chain.extend w) := by
  rw [hextend]
  exact responds_of_attempt herror hstep hchange

theorem responds_of_modifyLast {edit : Constraint → Constraint} (herror : chain.error = none)
    (hstep : w.stepIn chain.state = some step)
    (hextend : chain.extend w = chain.modifyLast step next edit)
    (hchange : chain.state.permits step = true →
      Advances chain ⟨editLast edit chain.reversed, next, chain.error⟩) :
    Responds chain w (chain.extend w) := by
  rw [hextend]
  exact responds_of_attempt herror hstep hchange

/-- **Everything that a call can do** to a chain without an error. -/
theorem responds_extend (herror : chain.error = none) (w : Word) :
    Responds chain w (chain.extend w) := by
  cases w with
  | within amount => exact responds_of_modifyLast herror rfl rfl (.within amount)
  | percent => exact responds_of_modifyLast herror rfl rfl .percent
  | ignoreCase => exact responds_of_modifyLast herror rfl rfl .ignoreCase
  | not => exact responds_of_append herror rfl rfl (.unary .not)
  | quantified q => exact responds_of_append herror rfl rfl (.unary (.quantified q))
  | and => exact responds_of_append herror rfl rfl (.connective .and)
  | or => exact responds_of_append herror rfl rfl (.connective .or)
  | joined =>
    cases hcloses : chain.state.closesOperand with
    | true =>
      have hextend : chain.extend .joined = chain.connective .and := if_pos hcloses
      exact responds_of_append herror (if_pos hcloses) hextend (.connective .and)
    | false =>
      have hextend : chain.extend .joined = chain := if_neg (by simp [hcloses])
      rw [hextend]
      exact .advances (by simp [State.allows, Word.stepIn, hcloses]) (.stays hcloses)
  | property name => exact responds_of_append herror rfl rfl (.selector (.property name))
  | «attribute» name => exact responds_of_append herror rfl rfl (.selector (.attribute name))
  | throws => exact responds_of_append herror rfl rfl (.selector .throws)
  | _ => exact responds_of_append herror rfl rfl (.operand _)

theorem Advances.error_eq (h : Advances chain chain') : chain'.error = chain.error := by
  cases h <;> rfl

theorem append_of_error (herror : chain.error.isSome = true) (token : Token) :
    chain.append step token next = chain :=
  attempt_of_error chain step _ herror

theorem modifyLast_of_error (herror : chain.error.isSome = true) (edit : Constraint → Constraint) :
    chain.modifyLast step next edit = chain :=
  attempt_of_error chain step _ herror

theorem extend_of_error (herror : chain.error.isSome = true) (w : Word) : chain.extend w = chain := by
  cases w with
  | within amount => exact modifyLast_of_error herror (setTolerance amount)
  | percent => exact modifyLast_of_error herror setPercent
  | ignoreCase => exact modifyLast_of_error herror setIgnoreCase
  | joined =>
    rw [extend]
    split
    · exact append_of_error herror _
    · rfl
  | _ => exact append_of_error herror _

end Extend

/-! ## Legal chains -/

/-- Every call of the chain is legal in the place in which it is made. -/
def AllLegal (words : List Word) : Prop :=
  ∀ before w after, words = before ++ w :: after → (ofWords before).state.allows w = true

/-- After some legal calls comes one that takes a step which its place does not permit. -/
structure FirstIllegal (words before : List Word) (step : Step) : Prop where
  allLegal : AllLegal before
  call : ∃ w after, words = before ++ w :: after ∧ w.stepIn (ofWords before).state = some step
  refused : (ofWords before).state.permits step = false

/-- The record of an illegal step after some calls. -/
def illegalAfter (before : List Word) (step : Step) : BuildError :=
  .illegalStep step (ofWords before).state (ofWords before).tokens.length

section AllLegal

variable {words : List Word} {w : Word}

theorem extendAll_cons (chain : Chain) (w : Word) (words : List Word) :
    chain.extendAll (w :: words) = (chain.extend w).extendAll words := rfl

theorem extendAll_append (chain : Chain) (words more : List Word) :
    chain.extendAll (words ++ more) = (chain.extendAll words).extendAll more :=
  List.foldl_append

theorem ofWords_append_singleton (words : List Word) (w : Word) :
    ofWords (words ++ [w]) = (ofWords words).extend w :=
  extendAll_append empty words [w]

theorem allLegal_nil : AllLegal [] := by
  intro before w after h
  exact absurd h (by simp)

theorem allLegal_append_singleton :
    AllLegal (words ++ [w]) ↔ AllLegal words ∧ (ofWords words).state.allows w = true := by
  constructor
  · refine fun h => ⟨fun before v after heq => ?_, h words w [] rfl⟩
    exact h before v (after ++ [w]) (by simp [heq])
  · rintro ⟨h, hw⟩ before v after heq
    rcases List.eq_nil_or_concat after with rfl | ⟨after, u, rfl⟩
    · obtain ⟨rfl, hv⟩ := List.append_inj' heq rfl
      obtain rfl : w = v := List.head_eq_of_cons_eq hv
      exact hw
    · have hsplit : before ++ v :: after.concat u = (before ++ v :: after) ++ [u] := by simp
      rw [hsplit] at heq
      exact h before v after (List.append_inj' heq rfl).1

end AllLegal

theorem error_ofWords_of_allLegal {words : List Word} (h : AllLegal words) :
    (ofWords words).error = none := by
  induction words using List.reverseRecOn with
  | nil => rfl
  | append_singleton words w ih =>
    obtain ⟨hwords, hw⟩ := allLegal_append_singleton.mp h
    have herror := ih hwords
    have hr := responds_extend herror w
    rw [ofWords_append_singleton]
    generalize (ofWords words).extend w = chain at hr
    cases hr with
    | refuses step hstep hpermits =>
      rw [State.allows, hstep, Option.all_some, hpermits] at hw
      exact Bool.noConfusion hw
    | advances _ h => rw [h.error_eq, herror]

theorem exists_firstIllegal {words : List Word} (h : ¬ AllLegal words) :
    ∃ before step, FirstIllegal words before step ∧
      (ofWords words).error = some (illegalAfter before step) := by
  induction words using List.reverseRecOn with
  | nil => exact absurd allLegal_nil h
  | append_singleton words w ih =>
    rw [ofWords_append_singleton]
    by_cases hwords : AllLegal words
    · have hr := responds_extend (error_ofWords_of_allLegal hwords) w
      generalize (ofWords words).extend w = chain at hr
      cases hr with
      | refuses step hstep hpermits =>
        refine ⟨words, step, ⟨hwords, ⟨w, [], rfl, hstep⟩, hpermits⟩, ?_⟩
        rw [refuse, illegalAfter, tokens, List.length_reverse]
      | advances hallows _ => exact absurd (allLegal_append_singleton.mpr ⟨hwords, hallows⟩) h
    · obtain ⟨before, step, ⟨hbefore, ⟨v, after, rfl, hstep⟩, hpermits⟩, herror⟩ := ih hwords
      refine ⟨before, step, ⟨hbefore, ⟨v, after ++ [w], by simp, hstep⟩, hpermits⟩, ?_⟩
      rw [extend_of_error (by rw [herror]; rfl), herror]

theorem allLegal_iff {words : List Word} : AllLegal words ↔ (ofWords words).error = none := by
  refine ⟨error_ofWords_of_allLegal, fun herror => ?_⟩
  by_contra h
  obtain ⟨before, step, -, hillegal⟩ := exists_firstIllegal h
  exact absurd (herror.symm.trans hillegal).symm (Option.some_ne_none _)

/-! ## The tokens of a chain -/

/-- The kinds of the tokens of a chain in order. -/
def kinds (chain : Chain) : List Token.Kind := chain.tokens.map Token.kind

/-- The kinds are a series as soon as another series follows. -/
def Awaits (kinds : List Token.Kind) : Prop := ∀ rest, Series rest → Series (kinds ++ rest)

/-- The state of a chain tells what its tokens still need: nothing where it may be resolved, and an
operand where one is permitted. -/
structure Sound (chain : Chain) : Prop where
  start_iff : chain.state = .start ↔ chain.reversed = []
  awaits : chain.state.permits .operand = true → Awaits chain.kinds
  series : chain.state.isResolvable = true → Series chain.kinds

namespace State

variable {s : State}

theorem permits_unary (s : State) : s.permits .unary = s.permits .operand := by cases s <;> rfl

theorem permits_selector (s : State) : s.permits .selector = s.permits .operand := by
  cases s <;> rfl

theorem permits_connective (s : State) : s.permits .connective = s.isResolvable := by
  cases s <;> rfl

theorem isResolvable_of_closesOperand (h : s.closesOperand = true) : s.isResolvable = true := by
  cases s <;> first | rfl | exact Bool.noConfusion h

theorem permits_operand_of_closesOperand (h : s.closesOperand = true) :
    s.permits .operand = false := by
  cases s <;> first | rfl | exact Bool.noConfusion h

theorem ne_start_of_isResolvable (h : s.isResolvable = true) : s ≠ .start := by
  rintro rfl
  exact Bool.noConfusion h

theorem closesOperand_after (c : Constraint) : (after c).closesOperand = true := by
  unfold after
  split <;> rfl

theorem closesOperand_of_permits {step : Step} (hstep : step ∈ [.within, .percent, .ignoreCase])
    (h : s.permits step = true) : s.closesOperand = true := by
  simp only [List.mem_cons, List.not_mem_nil, or_false] at hstep
  rcases hstep with rfl | rfl | rfl <;> cases s <;> first | rfl | exact Bool.noConfusion h

end State

section Sound

variable {chain chain' : Chain} {reversed : List Token} {s : State} {e : Option BuildError}

theorem kinds_cons (t : Token) (reversed : List Token) (s : State) (e : Option BuildError) :
    kinds ⟨t :: reversed, s, e⟩ = kinds ⟨reversed, s, e⟩ ++ [t.kind] := by
  simp [kinds, tokens]

theorem kinds_editLast (edit : Constraint → Constraint) :
    kinds ⟨editLast edit reversed, s, e⟩ = kinds ⟨reversed, s, e⟩ := by
  unfold kinds tokens
  match reversed with
  | [] | .operator op :: rest => rfl
  | .operand c :: rest => simp [editLast, Token.kind]

theorem Sound.empty : Sound empty where
  start_iff := ⟨fun _ => rfl, fun _ => rfl⟩
  awaits _ := fun _ h => h
  series h := Bool.noConfusion h

theorem Sound.of_closesOperand (hcloses : s.closesOperand = true)
    (hseries : Series (kinds ⟨reversed, s, e⟩)) : Sound ⟨reversed, s, e⟩ where
  start_iff := by
    constructor
    · exact fun hs => absurd hs (s.ne_start_of_isResolvable (s.isResolvable_of_closesOperand hcloses))
    · rintro rfl
      exact absurd rfl hseries.ne_nil
  awaits h := by
    rw [State.permits_operand_of_closesOperand hcloses] at h
    exact Bool.noConfusion h
  series _ := hseries

theorem Sound.of_awaits {t : Token} (hawaits : Awaits (kinds ⟨t :: reversed, .awaitingOperand, e⟩)) :
    Sound ⟨t :: reversed, .awaitingOperand, e⟩ where
  start_iff := by simp
  awaits _ := hawaits
  series h := Bool.noConfusion h

theorem Sound.edited (h : Sound chain) (hcloses : chain.state.closesOperand = true)
    (hs : s.closesOperand = true) (edit : Constraint → Constraint) :
    Sound ⟨editLast edit chain.reversed, s, chain.error⟩ := by
  refine .of_closesOperand hs ?_
  rw [kinds_editLast]
  exact h.series (State.isResolvable_of_closesOperand hcloses)

/-- **A legal call keeps the state sound.** -/
theorem Sound.advances (h : Sound chain) (hadvances : Advances chain chain') : Sound chain' := by
  cases hadvances with
  | stays _ => exact h
  | operand c hpermits =>
    refine .of_closesOperand (State.closesOperand_after c) ?_
    rw [kinds_cons]
    exact h.awaits hpermits _ (.operand .operand)
  | unary u hpermits =>
    refine .of_awaits fun rest hrest => ?_
    rw [State.permits_unary] at hpermits
    rw [kinds_cons, List.append_assoc]
    exact h.awaits hpermits _ (hrest.unary_cons u)
  | connective k hpermits =>
    refine .of_awaits fun rest hrest => ?_
    rw [State.permits_connective] at hpermits
    rw [kinds_cons, List.append_assoc]
    exact (h.series hpermits).append k hrest
  | selector s hpermits =>
    rw [State.permits_selector] at hpermits
    refine ⟨by simp, fun _ rest hrest => ?_, fun _ => ?_⟩
    · rw [kinds_cons, List.append_assoc]
      exact h.awaits hpermits _ (hrest.selector_cons s)
    · rw [kinds_cons]
      exact h.awaits hpermits _ (.operand (.alone s))
  | within _ hpermits | percent hpermits | ignoreCase hpermits =>
    exact h.edited (State.closesOperand_of_permits (by simp) hpermits) rfl _

theorem Sound.extend (h : Sound chain) (w : Word) : Sound (chain.extend w) := by
  cases herror : chain.error with
  | some e => rwa [extend_of_error (by rw [herror]; rfl)]
  | none =>
    have hr := responds_extend herror w
    generalize chain.extend w = chain' at hr
    cases hr with
    | refuses step _ _ => exact ⟨h.start_iff, h.awaits, h.series⟩
    | advances _ hadvances => exact h.advances hadvances

/-- **The state of every chain of calls is sound**, also after an error. -/
theorem sound_ofWords (words : List Word) : Sound (ofWords words) := by
  induction words using List.reverseRecOn with
  | nil => exact .empty
  | append_singleton words w ih =>
    rw [ofWords_append_singleton]
    exact ih.extend w

end Sound

/-! ## Every well-formed stream is a chain -/

/-- A call that appends a token of the kind. -/
def wordOf : Token.Kind → Word
  | .operand => .isNull
  | .operator (.unary .not) => .not
  | .operator (.unary (.quantified q)) => .quantified q
  | .operator (.connective .and) => .and
  | .operator (.connective .or) => .or
  | .operator (.selector (.property name)) => .property name
  | .operator (.selector (.attribute name)) => .attribute name
  | .operator (.selector .throws) => .throws

/-- The second chain has tokens of these kinds more, no error, and may be resolved. -/
def Accepts (chain chain' : Chain) (kinds : List Token.Kind) : Prop :=
  chain'.error = none ∧ chain'.state.isResolvable = true ∧ chain'.kinds = chain.kinds ++ kinds

section Accepts

variable {chain chain' chain'' : Chain} {kinds rest : List Token.Kind} {step : Step}

theorem Accepts.cons {t : Token} {s : State}
    (h : Accepts ⟨t :: chain.reversed, s, none⟩ chain' kinds) :
    Accepts chain chain' (t.kind :: kinds) := by
  obtain ⟨herror, hresolvable, hkinds⟩ := h
  refine ⟨herror, hresolvable, ?_⟩
  rw [hkinds, kinds_cons, List.append_assoc]
  rfl

theorem Accepts.trans (h : Accepts chain chain' kinds) (h' : Accepts chain' chain'' rest) :
    Accepts chain chain'' (kinds ++ rest) := by
  obtain ⟨herror, hresolvable, hkinds⟩ := h'
  refine ⟨herror, hresolvable, ?_⟩
  rw [hkinds, h.2.2, List.append_assoc]

theorem append_of_permits (herror : chain.error = none) (hpermits : chain.state.permits step = true)
    (t : Token) (next : State) : chain.append step t next = ⟨t :: chain.reversed, next, none⟩ := by
  rw [append, attempt, if_neg (by simp [herror]), if_pos hpermits, herror]

theorem extend_wordOf_unary (herror : chain.error = none)
    (hpermits : chain.state.permits .operand = true) (u : Unary) :
    chain.extend (wordOf (.operator (.unary u))) =
      ⟨.operator (.unary u) :: chain.reversed, .awaitingOperand, none⟩ := by
  rw [← State.permits_unary] at hpermits
  cases u <;> exact append_of_permits herror hpermits _ _

theorem extend_wordOf_selector (herror : chain.error = none)
    (hpermits : chain.state.permits .operand = true) (s : Selector) :
    chain.extend (wordOf (.operator (.selector s))) =
      ⟨.operator (.selector s) :: chain.reversed, .afterSelector, none⟩ := by
  rw [← State.permits_selector] at hpermits
  cases s <;> exact append_of_permits herror hpermits _ _

theorem extend_wordOf_connective (herror : chain.error = none)
    (hpermits : chain.state.isResolvable = true) (k : Connective) :
    chain.extend (wordOf (.operator (.connective k))) =
      ⟨.operator (.connective k) :: chain.reversed, .awaitingOperand, none⟩ := by
  rw [← State.permits_connective] at hpermits
  cases k <;> exact append_of_permits herror hpermits _ _

theorem accepts_of_isOperand (h : IsOperand kinds) (herror : chain.error = none)
    (hpermits : chain.state.permits .operand = true) :
    Accepts chain (chain.extendAll (kinds.map wordOf)) kinds := by
  induction h generalizing chain with
  | operand =>
    have hextend : chain.extendAll [.isNull] = ⟨.operand .isNull :: chain.reversed, .complete, none⟩ :=
      append_of_permits herror hpermits _ _
    rw [List.map_singleton, wordOf, hextend]
    exact ⟨rfl, rfl, kinds_cons _ _ _ _⟩
  | alone s =>
    rw [List.map_singleton, extendAll_cons, extend_wordOf_selector herror hpermits]
    exact ⟨rfl, rfl, kinds_cons _ _ _ _⟩
  | unary u _ ih =>
    rw [List.map_cons, extendAll_cons, extend_wordOf_unary herror hpermits]
    exact (ih rfl rfl).cons
  | selector s _ ih =>
    rw [List.map_cons, extendAll_cons, extend_wordOf_selector herror hpermits]
    exact (ih rfl rfl).cons

/-- **A series is appended without an illegal call** wherever an operand is permitted. -/
theorem accepts_of_series (h : Series kinds) (herror : chain.error = none)
    (hpermits : chain.state.permits .operand = true) :
    Accepts chain (chain.extendAll (kinds.map wordOf)) kinds := by
  induction h generalizing chain with
  | operand h => exact accepts_of_isOperand h herror hpermits
  | connective k h _ ih =>
    have hfirst := accepts_of_isOperand h herror hpermits
    rw [List.map_append, extendAll_append]
    refine hfirst.trans ?_
    rw [List.map_cons, extendAll_cons, extend_wordOf_connective hfirst.1 hfirst.2.1]
    exact (ih rfl rfl).cons

end Accepts

/-! ## The outcome of a chain -/

section Outcome

variable {chain : Chain}

theorem resolve_of_error {e : BuildError} (h : chain.error = some e) : chain.resolve = .error e := by
  rw [resolve, resolution, h]

theorem resolve_of_start (herror : chain.error = none) (h : chain.state = .start) :
    chain.resolve = .error .emptyExpression := by
  rw [resolve, resolution, herror]
  simp [h]

theorem resolve_of_awaitingOperand (herror : chain.error = none)
    (h : chain.state = .awaitingOperand) : chain.resolve = .error .incomplete := by
  rw [resolve, resolution, herror]
  simp [h, State.isResolvable, State.permits]

theorem resolve_of_isResolvable (herror : chain.error = none)
    (h : chain.state.isResolvable = true) :
    chain.resolve = Expectation.resolve chain.tokens := by
  rw [resolve, resolution, herror]
  simp [h, State.ne_start_of_isResolvable h, Expectation.resolve]

theorem State.isResolvable_of_ne {s : State} (hs : s ≠ .start) (hs' : s ≠ .awaitingOperand) :
    s.isResolvable = true := by
  cases s <;> first | rfl | contradiction

variable {words : List Word}

theorem resolve_of_not_allLegal (h : ¬ AllLegal words) :
    ∃ before step, FirstIllegal words before step ∧
      (ofWords words).error = some (illegalAfter before step) ∧
      (ofWords words).resolve = .error (illegalAfter before step) := by
  obtain ⟨before, step, hfirst, herror⟩ := exists_firstIllegal h
  exact ⟨before, step, hfirst, herror, resolve_of_error herror⟩

theorem resolve_of_allLegal (h : AllLegal words) :
    ((ofWords words).tokens = [] → (ofWords words).resolve = .error .emptyExpression) ∧
    ((ofWords words).state = .awaitingOperand → (ofWords words).resolve = .error .incomplete) ∧
    ((ofWords words).tokens ≠ [] → (ofWords words).state ≠ .awaitingOperand →
      ∃ c, (ofWords words).resolve = .ok c) := by
  have herror := error_ofWords_of_allLegal h
  have hsound := sound_ofWords words
  have hstart : (ofWords words).state = .start ↔ (ofWords words).tokens = [] := by
    rw [hsound.start_iff, tokens, List.reverse_eq_nil_iff]
  refine ⟨fun htokens => resolve_of_start herror (hstart.mpr htokens),
    resolve_of_awaitingOperand herror, fun htokens hstate => ?_⟩
  have hresolvable := State.isResolvable_of_ne (mt hstart.mp htokens) hstate
  have hwell : WellFormed (ofWords words).tokens := hsound.series hresolvable
  obtain ⟨c, hc⟩ := hwell.exists_reads
  exact ⟨c, by rw [resolve_of_isResolvable herror hresolvable, hc.resolve]⟩

theorem resolve_ne_of_tokens (words : List Word) :
    (∀ operator, (ofWords words).resolve ≠ .error (.operandUnderflow operator)) ∧
    ∀ operands, (ofWords words).resolve ≠ .error (.unreduced operands) := by
  by_cases h : AllLegal words
  · obtain ⟨hempty, hincomplete, hok⟩ := resolve_of_allLegal h
    by_cases htokens : (ofWords words).tokens = []
    · simp [hempty htokens]
    · by_cases hstate : (ofWords words).state = .awaitingOperand
      · simp [hincomplete hstate]
      · obtain ⟨c, hc⟩ := hok htokens hstate
        simp [hc]
  · obtain ⟨before, step, -, -, hresolve⟩ := resolve_of_not_allLegal h
    simp [hresolve, illegalAfter]

theorem series_iff_exists_words {kinds : List Token.Kind} :
    Series kinds ↔ ∃ words, (ofWords words).error = none ∧
      (ofWords words).state.isResolvable = true ∧ (ofWords words).tokens.map Token.kind = kinds := by
  constructor
  · exact fun h => ⟨kinds.map wordOf, accepts_of_series h rfl rfl⟩
  · rintro ⟨words, -, hresolvable, rfl⟩
    exact (sound_ofWords words).series hresolvable

end Outcome

/-- **The outcome of a chain.** The first illegal call is the error of the chain. Without one a chain
without tokens is empty, one that awaits an operand is incomplete, and every other one stands for a
constraint: the tokens are never at fault. The legal chains are exactly the well-formed streams. -/
theorem resolve_ofWords :
    (∀ words : List Word,
      (¬ AllLegal words → ∃ before step, FirstIllegal words before step ∧
        (ofWords words).error = some (illegalAfter before step) ∧
        (ofWords words).resolve = .error (illegalAfter before step)) ∧
      (AllLegal words →
        ((ofWords words).tokens = [] → (ofWords words).resolve = .error .emptyExpression) ∧
        ((ofWords words).state = .awaitingOperand →
          (ofWords words).resolve = .error .incomplete) ∧
        ((ofWords words).tokens ≠ [] → (ofWords words).state ≠ .awaitingOperand →
          ∃ c, (ofWords words).resolve = .ok c)) ∧
      (∀ operator, (ofWords words).resolve ≠ .error (.operandUnderflow operator)) ∧
      ∀ operands, (ofWords words).resolve ≠ .error (.unreduced operands)) ∧
    ∀ kinds : List Token.Kind, Series kinds ↔ ∃ words, (ofWords words).error = none ∧
      (ofWords words).state.isResolvable = true ∧ (ofWords words).tokens.map Token.kind = kinds :=
  ⟨fun words => ⟨resolve_of_not_allLegal, resolve_of_allLegal, resolve_ne_of_tokens words⟩,
    fun _ => series_iff_exists_words⟩

/-- An illegal chain, an empty one, one that ends too early and one that stands for a constraint. -/
theorem resolve_ofWords_four :
    (¬ AllLegal [.throws, .and, .and, .isNull] ∧
      ∃ e, (ofWords [.throws, .and, .and, .isNull]).resolve = .error e) ∧
    (AllLegal [] ∧ (ofWords []).resolve = .error .emptyExpression) ∧
    (AllLegal [.isNull, .or, .not] ∧
      (ofWords [.isNull, .or, .not]).resolve = .error .incomplete) ∧
    (AllLegal [.isNull, .or, .not, .throws] ∧
      ∃ c, (ofWords [.isNull, .or, .not, .throws]).resolve = .ok c) := by
  have hillegal : ¬ AllLegal [.throws, .and, .and, .isNull] :=
    mt allLegal_iff.mp (Option.some_ne_none _)
  obtain ⟨before, step, -, -, hresolve⟩ := (resolve_ofWords.1 _).1 hillegal
  have hempty : AllLegal [] := allLegal_iff.mpr rfl
  have hincomplete : AllLegal [.isNull, .or, .not] := allLegal_iff.mpr rfl
  have hcomplete : AllLegal [.isNull, .or, .not, .throws] := allLegal_iff.mpr rfl
  refine ⟨⟨hillegal, _, hresolve⟩, ⟨hempty, ((resolve_ofWords.1 _).2.1 hempty).1 rfl⟩,
    ⟨hincomplete, ((resolve_ofWords.1 _).2.1 hincomplete).2.1 rfl⟩,
    hcomplete, ((resolve_ofWords.1 _).2.1 hcomplete).2.2 ?_ ?_⟩
  · exact List.cons_ne_nil _ _
  · decide

end Expectation.Chain
