import Expectation.Constraint.Evaluate

/-!
# Relations that evaluation respects

Evaluation knows a host by the answers to its questions and is otherwise put together by composition. A
relation between trials that composition respects, and that relates the questions to two hosts, relates
evaluation over them.

* `Trial.Congruence`: a relation that goes through `pure` and `bind`;
* `Host.Corresponds`: the questions to two hosts are related;
* **`Trial.Congruence.evaluate`**: so is evaluation over them;
* `Trial.Asks`, `asks_evaluate`: evaluation makes no other calls than those to the host.
-/

namespace Expectation

variable {σ τ : Type}

/-- A relation between trials that composition respects, when what follows is related for every result. -/
structure Trial.Congruence (σ τ : Type) where
  Rel : {α : Type} → Trial σ α → Trial τ α → Prop
  protected pure : ∀ {α : Type} (a : α), Rel (pure a) (pure a)
  protected bind : ∀ {α β : Type} {t : Trial σ α} {u : Trial τ α} {f : α → Trial σ β}
    {g : α → Trial τ β}, Rel t u → (∀ a, Rel (f a) (g a)) → Rel (t >>= f) (u >>= g)

/-- The questions to the two hosts are related. -/
structure Host.Corresponds (Q : Trial.Congruence σ τ) (host : Host σ) (host' : Host τ) : Prop where
  propertyOf : ∀ o name, Q.Rel (.ask (.propertyOf o name) (host.propertyOf o name))
    (.ask (.propertyOf o name) (host'.propertyOf o name))
  attributeOf : ∀ o name, Q.Rel (.ask (.attributeOf o name) (host.attributeOf o name))
    (.ask (.attributeOf o name) (host'.attributeOf o name))
  instanceOf : ∀ o name, Q.Rel (.ask (.instanceOf o name) (host.instanceOf o name))
    (.ask (.instanceOf o name) (host'.instanceOf o name))
  assignableFrom : ∀ o name, Q.Rel (.ask (.assignableFrom o name) (host.assignableFrom o name))
    (.ask (.assignableFrom o name) (host'.assignableFrom o name))
  raised : ∀ c, Q.Rel (host.raised c) (host'.raised c)

namespace Trial.Congruence

variable (Q : Congruence σ τ) {α : Type} {p : α → Trial σ Bool} {q : α → Trial τ Bool}

theorem anyM (h : ∀ a, Q.Rel (p a) (q a)) (members : List α) :
    Q.Rel (members.anyM p) (members.anyM q) := by
  induction members with
  | nil => exact Q.pure false
  | cons a members ih =>
    refine Q.bind (h a) fun found => ?_
    cases found with
    | true => exact Q.pure true
    | false => exact ih

theorem allM (h : ∀ a, Q.Rel (p a) (q a)) (members : List α) :
    Q.Rel (members.allM p) (members.allM q) := by
  induction members with
  | nil => exact Q.pure true
  | cons a members ih =>
    refine Q.bind (h a) fun holds => ?_
    cases holds with
    | true => exact ih
    | false => exact Q.pure false

/-! ## Questions put to a value -/

variable {Q} {host : Host σ} {host' : Host τ}

theorem property? (h : host.Corresponds Q host') (v : Value) (name : String) :
    Q.Rel (v.property? host name) (v.property? host' name) := by
  cases v with
  | object o => exact h.propertyOf o name
  | _ => exact Q.pure _

theorem attribute? (h : host.Corresponds Q host') (v : Value) (name : String) :
    Q.Rel (v.attribute? host name) (v.attribute? host' name) := by
  cases v with
  | object o => exact h.attributeOf o name
  | _ => exact Q.pure _

theorem isInstance (h : host.Corresponds Q host') (v : Value) (name : String) :
    Q.Rel (v.isInstance host name) (v.isInstance host' name) := by
  cases v with
  | object o => exact h.instanceOf o name
  | _ => exact Q.pure _

theorem isAssignable (h : host.Corresponds Q host') (v : Value) (name : String) :
    Q.Rel (v.isAssignable host name) (v.isAssignable host' name) := by
  cases v with
  | object o => exact h.assignableFrom o name
  | _ => exact Q.pure _

/-! ## Evaluation -/

/-- **Evaluation** respects every such relation. -/
theorem evaluate (h : host.Corresponds Q host') (c : Constraint) (v : Value) :
    Q.Rel (c.evaluate host v) (c.evaluate host' v) := by
  induction c generalizing v with
  | isEmpty =>
    cases v with
    | list members => cases members <;> exact Q.pure _
    | _ => exact Q.pure _
  | instanceOf s => exact Q.bind (isInstance h v s) fun _ => Q.pure _
  | assignableFrom s => exact Q.bind (isAssignable h v s) fun _ => Q.pure _
  | hasProperty s => exact Q.bind (property? h v s) fun _ => Q.pure _
  | hasAttribute s => exact Q.bind (attribute? h v s) fun _ => Q.pure _
  | throws | throwsNothing =>
    cases v with
    | code code =>
      refine Q.bind (h.raised code) fun fault => ?_
      cases fault <;> exact Q.pure _
    | _ => exact Q.pure _
  | not inner ih => exact Q.bind (ih v) fun _ => Q.pure _
  | items quantifier inner ih =>
    have hmember : ∀ member, Q.Rel (do pure (← inner.evaluate host member).isPass)
        (do pure (← inner.evaluate host' member).isPass) :=
      fun member => Q.bind (ih member) fun _ => Q.pure _
    cases v with
    | list members =>
      have hall := Q.allM hmember members
      have hany := Q.anyM hmember members
      cases quantifier with
      | all => exact Q.bind hall fun _ => Q.pure _
      | some => exact Q.bind hany fun _ => Q.pure _
      | none => exact Q.bind hany fun _ => Q.bind (Q.pure _) fun _ => Q.pure _
    | _ => exact Q.pure _
  | and left right ihl ihr =>
    refine Q.bind (ihl v) fun verdict => ?_
    cases verdict with
    | pass => exact Q.bind (ihr v) fun _ => Q.pure _
    | fail f => exact Q.pure _
  | or left right ihl ihr =>
    refine Q.bind (ihl v) fun verdict => ?_
    cases verdict with
    | pass => exact Q.pure _
    | fail f => exact Q.bind (ihr v) fun _ => Q.pure _
  | propertyIs name inner ih =>
    refine Q.bind (property? h v name) fun found => ?_
    cases found with
    | some found => exact Q.bind (ih found) fun _ => Q.pure _
    | none => exact Q.pure _
  | attributeIs name inner ih =>
    refine Q.bind (attribute? h v name) fun found => ?_
    cases found with
    | some found => exact Q.bind (ih found) fun _ => Q.pure _
    | none => exact Q.pure _
  | throwsMatching inner ih =>
    cases v with
    | code code =>
      refine Q.bind (h.raised code) fun fault => ?_
      cases fault with
      | some fault => exact Q.bind (ih (.fault fault)) fun _ => Q.pure _
      | none => exact Q.pure _
    | _ => exact Q.pure _
  | _ => exact Q.pure _

end Trial.Congruence

/-! ## Calls of a kind -/

/-- Every call that the trial makes, from whatever state, satisfies the condition. -/
def Trial.Asks {α : Type} (condition : Call → Prop) (t : Trial σ α) : Prop :=
  ∀ s, ∀ call ∈ (t s).calls, condition call

/-- Composed trials make the calls of both. -/
def Trial.askingOnly (σ : Type) (condition : Call → Prop) : Congruence σ σ where
  Rel t _ := Asks condition t
  pure _ _ _ hmem := absurd hmem List.not_mem_nil
  bind ht hf s call hmem := by
    rw [bind_apply] at hmem
    rcases List.mem_append.mp hmem with hmem | hmem
    · exact ht s call hmem
    · exact hf _ _ call hmem

/-- **Evaluation** makes calls to the host only, and computes no value under test. -/
theorem asks_evaluate (host : Host σ) (c : Constraint) (v : Value) :
    (c.evaluate host v).Asks (· ≠ .compute) := by
  have hask {α : Type} {call : Call} {answer : σ → α × σ} (h : call ≠ .compute) :
      (Trial.ask call answer).Asks (· ≠ .compute) :=
    fun _ _ hmem => List.mem_singleton.mp hmem ▸ h
  have hhost : host.Corresponds (Trial.askingOnly σ (· ≠ .compute)) host :=
    ⟨fun _ _ => hask nofun, fun _ _ => hask nofun, fun _ _ => hask nofun, fun _ _ => hask nofun,
      fun _ => hask nofun⟩
  exact Trial.Congruence.evaluate hhost c v

end Expectation
