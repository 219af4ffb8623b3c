import Mathlib.Order.Nat
import Expectation.Token.Basic

/-!
# The grammar of expressions

A well-formed stream is a series of operands with a connective between every two. An operand is a run
of unary operators and selectors that ends in a constraint or in a selector which stands alone.

* `Token.Kind`, `IsOperand`, `Series`, `WellFormed`: the well-formed streams, by the kinds of tokens;
* `Continues`, `Begins`: a well-formed stream by its first token;
* `Tier`, `Reads`: the tree that recursive descent reads off a stream, and what it leaves unread;
* **`WellFormed.exists_reads`**: a well-formed stream can be read to its end.
-/

namespace Expectation

/-! ## Well-formed streams -/

/-- A token without the constraint of an operand. -/
inductive Token.Kind where
  | operand
  | operator (op : Operator)
deriving DecidableEq

/-- The kind of a token. -/
def Token.kind : Token → Token.Kind
  | operand _ => .operand
  | operator op => .operator op

/-- The tokens make up one operand. -/
inductive IsOperand : List Token.Kind → Prop
  | operand : IsOperand [.operand]
  | alone (s : Selector) : IsOperand [.operator (.selector s)]
  | unary (u : Unary) {kinds : List Token.Kind} (h : IsOperand kinds) :
      IsOperand (.operator (.unary u) :: kinds)
  | selector (s : Selector) {kinds : List Token.Kind} (h : IsOperand kinds) :
      IsOperand (.operator (.selector s) :: kinds)

/-- Operands with a connective between every two. -/
inductive Series : List Token.Kind → Prop
  | operand {kinds : List Token.Kind} (h : IsOperand kinds) : Series kinds
  | connective (k : Connective) {kinds rest : List Token.Kind} (h : IsOperand kinds)
      (hrest : Series rest) : Series (kinds ++ .operator (.connective k) :: rest)

/-- The stream is well-formed, whatever the constraints of its operands are. -/
def WellFormed (tokens : List Token) : Prop := Series (tokens.map Token.kind)

namespace Series

variable {kinds rest : List Token.Kind}

theorem unary_cons (u : Unary) (h : Series kinds) : Series (.operator (.unary u) :: kinds) := by
  cases h with
  | operand h => exact operand (.unary u h)
  | connective k h hrest => exact connective k (.unary u h) hrest

theorem selector_cons (s : Selector) (h : Series kinds) :
    Series (.operator (.selector s) :: kinds) := by
  cases h with
  | operand h => exact operand (.selector s h)
  | connective k h hrest => exact connective k (.selector s h) hrest

theorem append (h : Series kinds) (k : Connective) (hrest : Series rest) :
    Series (kinds ++ .operator (.connective k) :: rest) := by
  induction h with
  | operand h => exact connective k h hrest
  | connective j h _ ih =>
    rw [List.append_assoc, List.cons_append]
    exact connective j h ih

end Series

/-! ## The first token -/

/-- What follows a complete operand: nothing, or a connective and a series. -/
inductive Continues : List Token.Kind → Prop
  | nil : Continues []
  | connective (k : Connective) {rest : List Token.Kind} (h : Series rest) :
      Continues (.operator (.connective k) :: rest)

/-- A series by its first token. -/
inductive Begins : List Token.Kind → Prop
  | operand {rest : List Token.Kind} (h : Continues rest) : Begins (.operand :: rest)
  | alone (s : Selector) {rest : List Token.Kind} (h : Continues rest) :
      Begins (.operator (.selector s) :: rest)
  | unary (u : Unary) {rest : List Token.Kind} (h : Series rest) :
      Begins (.operator (.unary u) :: rest)
  | selector (s : Selector) {rest : List Token.Kind} (h : Series rest) :
      Begins (.operator (.selector s) :: rest)

theorem Series.begins {kinds : List Token.Kind} (h : Series kinds) : Begins kinds := by
  cases h with
  | operand h =>
    cases h with
    | operand => exact .operand .nil
    | alone s => exact .alone s .nil
    | unary u h => exact .unary u (.operand h)
    | selector s h => exact .selector s (.operand h)
  | connective k h hrest =>
    cases h with
    | operand => exact .operand (.connective k hrest)
    | alone s => exact .alone s (.connective k hrest)
    | unary u h => exact .unary u (.connective k h hrest)
    | selector s h => exact .selector s (.connective k h hrest)

theorem Series.ne_nil {kinds : List Token.Kind} (h : Series kinds) : kinds ≠ [] := by
  cases h.begins <;> exact List.cons_ne_nil _ _

theorem Continues.series_append {kinds rest : List Token.Kind} (h : Series kinds)
    (hrest : Continues rest) : Series (kinds ++ rest) := by
  cases hrest with
  | nil => rwa [List.append_nil]
  | connective k hrest => exact h.append k hrest

section Kinds

variable {tokens : List Token} {kinds : List Token.Kind}

theorem map_kind_eq_operand_cons (h : tokens.map Token.kind = .operand :: kinds) :
    ∃ c rest, tokens = .operand c :: rest ∧ rest.map Token.kind = kinds := by
  obtain ⟨t, rest, rfl, ht, hrest⟩ := List.map_eq_cons_iff.mp h
  cases t with
  | operand c => exact ⟨c, rest, rfl, hrest⟩
  | operator op => exact Token.Kind.noConfusion ht

theorem map_kind_eq_operator_cons {op : Operator}
    (h : tokens.map Token.kind = .operator op :: kinds) :
    ∃ rest, tokens = .operator op :: rest ∧ rest.map Token.kind = kinds := by
  obtain ⟨t, rest, rfl, ht, hrest⟩ := List.map_eq_cons_iff.mp h
  cases t with
  | operand c => exact Token.Kind.noConfusion ht
  | operator op' =>
    obtain rfl : op' = op := Token.Kind.operator.inj ht
    exact ⟨rest, rfl, hrest⟩

theorem Continues.eq_nil_or_cons (h : Continues (tokens.map Token.kind)) :
    tokens = [] ∨ ∃ k rest, tokens = .operator (.connective k) :: rest ∧ WellFormed rest := by
  generalize hk : tokens.map Token.kind = kinds at h
  cases h with
  | nil => exact .inl (List.map_eq_nil_iff.mp hk)
  | connective k h =>
    obtain ⟨rest, rfl, rfl⟩ := map_kind_eq_operator_cons hk
    exact .inr ⟨k, rest, rfl, h⟩

theorem Continues.endsOperand (h : Continues (tokens.map Token.kind)) :
    (Follower.of tokens).endsOperand = true := by
  rcases h.eq_nil_or_cons with rfl | ⟨k, rest, rfl, _⟩ <;> rfl

end Kinds

/-! ## Recursive descent -/

/-- The three tiers of the grammar, the loosest first. -/
inductive Tier where
  | disjunction
  | conjunction
  | operand
deriving DecidableEq

/-- Recursive descent, started at a tier, reads a tree off the first tokens of a stream and leaves the
others unread. Connectives of one kind group to the left. A quantifier and the selection of a fault take
in a whole disjunction, after which nothing may be left. -/
inductive Reads : Tier → List Token → Constraint → List Token → Prop
  | operand (c : Constraint) (rest : List Token) : Reads .operand (.operand c :: rest) c rest
  | alone (s : Selector) {rest : List Token} (h : (Follower.of rest).endsOperand = true) :
      Reads .operand (.operator (.selector s) :: rest) s.alone rest
  | not {tokens rest : List Token} {c : Constraint} (h : Reads .operand tokens c rest) :
      Reads .operand (.operator (.unary .not) :: tokens) (.not c) rest
  | propertyIs (name : String) {tokens rest : List Token} {c : Constraint}
      (h : Reads .operand tokens c rest) :
      Reads .operand (.operator (.selector (.property name)) :: tokens) (.propertyIs name c) rest
  | attributeIs (name : String) {tokens rest : List Token} {c : Constraint}
      (h : Reads .operand tokens c rest) :
      Reads .operand (.operator (.selector (.attribute name)) :: tokens) (.attributeIs name c) rest
  | items (q : Quantifier) {tokens : List Token} {c : Constraint}
      (h : Reads .disjunction tokens c []) :
      Reads .operand (.operator (.unary (.quantified q)) :: tokens) (.items q c) []
  | throwsMatching {tokens : List Token} {c : Constraint} (h : Reads .disjunction tokens c []) :
      Reads .operand (.operator (.selector .throws) :: tokens) (.throwsMatching c) []
  | conjunction {tokens rest : List Token} {c : Constraint} (h : Reads .operand tokens c rest) :
      Reads .conjunction tokens c rest
  | and {tokens middle rest : List Token} {a b : Constraint}
      (ha : Reads .conjunction tokens a (.operator (.connective .and) :: middle))
      (hb : Reads .operand middle b rest) : Reads .conjunction tokens (.and a b) rest
  | disjunction {tokens rest : List Token} {c : Constraint} (h : Reads .conjunction tokens c rest) :
      Reads .disjunction tokens c rest
  | or {tokens middle rest : List Token} {a b : Constraint}
      (ha : Reads .disjunction tokens a (.operator (.connective .or) :: middle))
      (hb : Reads .conjunction middle b rest) : Reads .disjunction tokens (.or a b) rest

namespace Reads

variable {tier : Tier} {tokens rest : List Token} {c : Constraint}

theorem endsOperand_eq_false (h : Reads tier tokens c rest) :
    (Follower.of tokens).endsOperand = false := by
  induction h with
  | operand | alone | not | propertyIs | attributeIs | items | throwsMatching => rfl
  | conjunction _ ih | disjunction _ ih => exact ih
  | and _ _ ih _ | or _ _ ih _ => exact ih

theorem series (h : Reads tier tokens c rest) (hrest : Continues (rest.map Token.kind)) :
    Series (tokens.map Token.kind) := by
  induction h with
  | operand c rest => exact hrest.series_append (.operand .operand)
  | alone s _ => exact hrest.series_append (.operand (.alone s))
  | not _ ih => exact (ih hrest).unary_cons _
  | propertyIs _ _ ih | attributeIs _ _ ih => exact (ih hrest).selector_cons _
  | items _ _ ih => exact (ih .nil).unary_cons _
  | throwsMatching _ ih => exact (ih .nil).selector_cons _
  | conjunction _ ih | disjunction _ ih => exact ih hrest
  | and _ _ iha ihb => exact iha (.connective .and (ihb hrest))
  | or _ _ iha ihb => exact iha (.connective .or (ihb hrest))

end Reads

/-! ## Well-formed streams can be read -/

/-- An operand can be read off the stream, and what is left continues it. -/
def StartsWithOperand (tokens : List Token) : Prop :=
  ∃ c rest, Reads .operand tokens c rest ∧ Continues (rest.map Token.kind) ∧
    rest.length < tokens.length

/-- The end of a conjunction: the end of the stream, or `or` and a well-formed stream. -/
def EndsConjunction (tokens : List Token) : Prop :=
  tokens = [] ∨ ∃ rest, tokens = .operator (.connective .or) :: rest ∧ WellFormed rest

theorem Reads.exists_conjunction {n : ℕ}
    (hop : ∀ tokens : List Token, tokens.length < n → WellFormed tokens → StartsWithOperand tokens)
    {tokens rest : List Token} {a : Constraint} (h : Reads .conjunction tokens a rest)
    (hrest : Continues (rest.map Token.kind)) (hn : rest.length ≤ n) :
    ∃ b rest', Reads .conjunction tokens b rest' ∧ EndsConjunction rest' ∧
      rest'.length ≤ rest.length := by
  induction hl : rest.length using Nat.strongRecOn generalizing rest a with
  | ind l ih =>
    rcases hrest.eq_nil_or_cons with rfl | ⟨k, more, rfl, hmore⟩
    · exact ⟨a, [], h, .inl rfl, by simp⟩
    · rw [List.length_cons] at hn hl
      cases k with
      | or => exact ⟨a, _, h, .inr ⟨more, rfl, hmore⟩, hl.le⟩
      | and =>
        obtain ⟨b, rest', hb, hrest', hlt⟩ := hop more (by omega) hmore
        obtain ⟨c, rest'', hc, hend, hle⟩ :=
          ih rest'.length (by omega) (.and h hb) hrest' (by omega) rfl
        exact ⟨c, rest'', hc, hend, by omega⟩

theorem Reads.exists_disjunction {n : ℕ}
    (hop : ∀ tokens : List Token, tokens.length < n → WellFormed tokens → StartsWithOperand tokens)
    {tokens rest : List Token} {a : Constraint} (h : Reads .disjunction tokens a rest)
    (hrest : EndsConjunction rest) (hn : rest.length ≤ n) : ∃ b, Reads .disjunction tokens b [] := by
  induction hl : rest.length using Nat.strongRecOn generalizing rest a with
  | ind l ih =>
    rcases hrest with rfl | ⟨more, rfl, hmore⟩
    · exact ⟨a, h⟩
    · rw [List.length_cons] at hn hl
      obtain ⟨b, rest', hb, hrest', hlt⟩ := hop more (by omega) hmore
      obtain ⟨c, rest'', hc, hend, hle⟩ :=
        (Reads.conjunction hb).exists_conjunction hop hrest' (by omega)
      exact ih rest''.length (by omega) (.or h hc) hend (by omega) rfl

theorem StartsWithOperand.exists_reads {tokens : List Token} (h : StartsWithOperand tokens)
    (hop : ∀ shorter : List Token, shorter.length < tokens.length → WellFormed shorter →
      StartsWithOperand shorter) : ∃ c, Reads .disjunction tokens c [] := by
  obtain ⟨a, rest, ha, hrest, hlt⟩ := h
  obtain ⟨b, rest', hb, hend, hle⟩ :=
    (Reads.conjunction ha).exists_conjunction hop hrest (by omega)
  exact (Reads.disjunction hb).exists_disjunction hop hend (by omega)

theorem WellFormed.startsWithOperand_cons {tokens : List Token} {op : Operator}
    (h : WellFormed tokens)
    (hop : ∀ shorter : List Token, shorter.length ≤ tokens.length → WellFormed shorter →
      StartsWithOperand shorter) (hne : ∀ k, op ≠ .connective k) :
    StartsWithOperand (.operator op :: tokens) := by
  obtain ⟨c, rest, hc, hrest, hlt⟩ := hop tokens le_rfl h
  obtain ⟨d, hd⟩ := (hop tokens le_rfl h).exists_reads fun shorter hs => hop shorter hs.le
  have hlt' : rest.length < (Token.operator op :: tokens).length := Nat.lt_succ_of_lt hlt
  match op with
  | .unary .not => exact ⟨_, rest, .not hc, hrest, hlt'⟩
  | .unary (.quantified q) => exact ⟨_, [], .items q hd, .nil, Nat.succ_pos _⟩
  | .connective k => exact absurd rfl (hne k)
  | .selector (.property name) => exact ⟨_, rest, .propertyIs name hc, hrest, hlt'⟩
  | .selector (.attribute name) => exact ⟨_, rest, .attributeIs name hc, hrest, hlt'⟩
  | .selector .throws => exact ⟨_, [], .throwsMatching hd, .nil, Nat.succ_pos _⟩

theorem WellFormed.startsWithOperand {tokens : List Token} (h : WellFormed tokens) :
    StartsWithOperand tokens := by
  induction hl : tokens.length using Nat.strongRecOn generalizing tokens with
  | ind l ih =>
    generalize hk : tokens.map Token.kind = kinds
    have hb : Begins kinds := hk ▸ Series.begins h
    cases hb with
    | operand hc =>
      obtain ⟨c, rest, rfl, rfl⟩ := map_kind_eq_operand_cons hk
      exact ⟨c, rest, .operand c rest, hc, Nat.lt_succ_self _⟩
    | alone s hc =>
      obtain ⟨rest, rfl, rfl⟩ := map_kind_eq_operator_cons hk
      exact ⟨s.alone, rest, .alone s hc.endsOperand, hc, Nat.lt_succ_self _⟩
    | unary u hs =>
      obtain ⟨rest, rfl, rfl⟩ := map_kind_eq_operator_cons hk
      rw [List.length_cons] at hl
      exact WellFormed.startsWithOperand_cons hs
        (fun shorter hle hw => ih shorter.length (by omega) hw rfl) (by simp)
    | selector s hs =>
      obtain ⟨rest, rfl, rfl⟩ := map_kind_eq_operator_cons hk
      rw [List.length_cons] at hl
      exact WellFormed.startsWithOperand_cons hs
        (fun shorter hle hw => ih shorter.length (by omega) hw rfl) (by simp)

/-- **A well-formed stream can be read to its end.** -/
theorem WellFormed.exists_reads {tokens : List Token} (h : WellFormed tokens) :
    ∃ c, Reads .disjunction tokens c [] :=
  h.startsWithOperand.exists_reads fun _ _ hw => hw.startsWithOperand

end Expectation
