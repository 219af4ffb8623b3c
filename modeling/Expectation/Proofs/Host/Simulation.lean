import Expectation.Proofs.Host.Congruence

/-!
# Hosts that answer alike

Evaluation knows a host by its answers alone. Over two hosts that answer alike in related states it
comes to the same verdict by the same calls.

* `Trial.Related`: trials over related states that have the same result and the same calls;
* `Host.Simulates`: the answers of two hosts are related;
* **`related_evaluate`**: evaluation over hosts that answer alike;
* `Host.Reaches`, `Host.Steady`: a host that from some state on answers each question the same way;
* `Host.frozen`, `Host.Steady.result_evaluate`: such a host is as good as one without states;
* `reaches_evaluate`: evaluation ends in a state that questions lead to.
-/

namespace Expectation

variable {σ τ : Type}

/-! ## Related trials -/

namespace Trial

variable {α β : Type} {R : σ → τ → Prop}

/-- In related states the trials have the same result, make the same calls and go on to related
states. -/
def Related (R : σ → τ → Prop) (t : Trial σ α) (u : Trial τ α) : Prop :=
  ∀ s r, R s r → (t s).result = (u r).result ∧ (t s).calls = (u r).calls ∧ R (t s).state (u r).state

theorem related_pure (a : α) : Related R (pure a) (pure a) := fun _ _ h => ⟨rfl, rfl, h⟩

theorem Related.bind {t : Trial σ α} {u : Trial τ α} {f : α → Trial σ β} {g : α → Trial τ β}
    (h : Related R t u) (hf : ∀ a, Related R (f a) (g a)) : Related R (t >>= f) (u >>= g) := by
  intro s r hR
  obtain ⟨hresult, hcalls, hstate⟩ := h s r hR
  rw [bind_apply, bind_apply, ← hresult, ← hcalls]
  obtain ⟨hresult', hcalls', hstate'⟩ := hf (t s).result _ _ hstate
  exact ⟨hresult', by rw [hcalls'], hstate'⟩

/-- Composition respects this relation. -/
def simulation (R : σ → τ → Prop) : Congruence σ τ where
  Rel := Related R
  pure := related_pure
  bind := Related.bind

end Trial

/-! ## Hosts that answer alike -/

/-- In related states the hosts give the same answers and go on to related states. -/
structure Host.Simulates (R : σ → τ → Prop) (host : Host σ) (host' : Host τ) : Prop where
  propertyOf : ∀ o name, Trial.Related R (.ask (.propertyOf o name) (host.propertyOf o name))
    (.ask (.propertyOf o name) (host'.propertyOf o name))
  attributeOf : ∀ o name, Trial.Related R (.ask (.attributeOf o name) (host.attributeOf o name))
    (.ask (.attributeOf o name) (host'.attributeOf o name))
  instanceOf : ∀ o name, Trial.Related R (.ask (.instanceOf o name) (host.instanceOf o name))
    (.ask (.instanceOf o name) (host'.instanceOf o name))
  assignableFrom : ∀ o name,
    Trial.Related R (.ask (.assignableFrom o name) (host.assignableFrom o name))
      (.ask (.assignableFrom o name) (host'.assignableFrom o name))
  raised : ∀ c, Trial.Related R (host.raised c) (host'.raised c)

/-- **Hosts that answer alike** lead evaluation to the same verdict by the same calls. -/
theorem related_evaluate {R : σ → τ → Prop} {host : Host σ} {host' : Host τ}
    (h : host.Simulates R host') (c : Constraint) (v : Value) :
    Trial.Related R (c.evaluate host v) (c.evaluate host' v) := by
  have hhosts : host.Corresponds (Trial.simulation R) host' :=
    ⟨h.propertyOf, h.attributeOf, h.instanceOf, h.assignableFrom, h.raised⟩
  exact Trial.Congruence.evaluate hhosts c v

/-! ## Steady hosts -/

/-- The states that questions can lead to. -/
inductive Host.Reaches (host : Host σ) (s : σ) : σ → Prop
  | start : Reaches host s s
  | propertyOf {s' : σ} (h : Reaches host s s') (o : HostObject) (name : String) :
      Reaches host s (host.propertyOf o name s').2
  | attributeOf {s' : σ} (h : Reaches host s s') (o : HostObject) (name : String) :
      Reaches host s (host.attributeOf o name s').2
  | instanceOf {s' : σ} (h : Reaches host s s') (o : HostObject) (name : String) :
      Reaches host s (host.instanceOf o name s').2
  | assignableFrom {s' : σ} (h : Reaches host s s') (o : HostObject) (name : String) :
      Reaches host s (host.assignableFrom o name s').2
  | run {s' : σ} (h : Reaches host s s') (c : Code) : Reaches host s (host.run c s').2

/-- From this state on the host answers each question the same way each time, and code has the same
outcome on every run.

The same answer is at the same address, but an address is only a label: evaluation compares it with the
addresses that the constraint holds, and with no other. A host that makes a new instance for every answer
is represented by the host that keeps, for each question, one address that no constraint holds. -/
structure Host.Steady (host : Host σ) (s : σ) : Prop where
  propertyOf : ∀ s', host.Reaches s s' → ∀ o name,
    (host.propertyOf o name s').1 = (host.propertyOf o name s).1
  attributeOf : ∀ s', host.Reaches s s' → ∀ o name,
    (host.attributeOf o name s').1 = (host.attributeOf o name s).1
  instanceOf : ∀ s', host.Reaches s s' → ∀ o name,
    (host.instanceOf o name s').1 = (host.instanceOf o name s).1
  assignableFrom : ∀ s', host.Reaches s s' → ∀ o name,
    (host.assignableFrom o name s').1 = (host.assignableFrom o name s).1
  run : ∀ s', host.Reaches s s' → ∀ c, (host.run c s').1 = (host.run c s).1

/-- The host without states that always gives the answers of this state. -/
def Host.frozen (host : Host σ) (s : σ) : Host Unit where
  propertyOf o name _ := ((host.propertyOf o name s).1, ())
  attributeOf o name _ := ((host.attributeOf o name s).1, ())
  instanceOf o name _ := ((host.instanceOf o name s).1, ())
  assignableFrom o name _ := ((host.assignableFrom o name s).1, ())
  run c _ := ((host.run c s).1, ())

section Steady

variable {host : Host σ} {s s' : σ}

theorem Host.Steady.simulates_frozen (h : host.Steady s) :
    host.Simulates (fun s' _ => host.Reaches s s') (host.frozen s) where
  propertyOf o name s' _ hs := ⟨h.propertyOf s' hs o name, rfl, hs.propertyOf o name⟩
  attributeOf o name s' _ hs := ⟨h.attributeOf s' hs o name, rfl, hs.attributeOf o name⟩
  instanceOf o name s' _ hs := ⟨h.instanceOf s' hs o name, rfl, hs.instanceOf o name⟩
  assignableFrom o name s' _ hs := ⟨h.assignableFrom s' hs o name, rfl, hs.assignableFrom o name⟩
  raised c s' _ hs := ⟨h.run s' hs c, rfl, hs.run c⟩

theorem Host.Reaches.trans {s'' : σ} (h : host.Reaches s s') (h' : host.Reaches s' s'') :
    host.Reaches s s'' := by
  induction h' with
  | start => exact h
  | propertyOf _ o name ih => exact ih.propertyOf o name
  | attributeOf _ o name ih => exact ih.attributeOf o name
  | instanceOf _ o name ih => exact ih.instanceOf o name
  | assignableFrom _ o name ih => exact ih.assignableFrom o name
  | run _ code ih => exact ih.run code

theorem Host.Steady.of_reaches (h : host.Steady s) (hs : host.Reaches s s') : host.Steady s' where
  propertyOf s'' hs' o name := by rw [h.propertyOf s'' (hs.trans hs'), h.propertyOf s' hs]
  attributeOf s'' hs' o name := by rw [h.attributeOf s'' (hs.trans hs'), h.attributeOf s' hs]
  instanceOf s'' hs' o name := by rw [h.instanceOf s'' (hs.trans hs'), h.instanceOf s' hs]
  assignableFrom s'' hs' o name := by
    rw [h.assignableFrom s'' (hs.trans hs'), h.assignableFrom s' hs]
  run s'' hs' code := by rw [h.run s'' (hs.trans hs'), h.run s' hs]

theorem Host.Steady.frozen_eq (h : host.Steady s) (hs : host.Reaches s s') :
    host.frozen s' = host.frozen s := by
  simp only [Host.frozen, h.propertyOf s' hs, h.attributeOf s' hs, h.instanceOf s' hs,
    h.assignableFrom s' hs, h.run s' hs]

/-- **A steady host** gives the verdicts of the host that is frozen in its state. -/
theorem Host.Steady.result_evaluate (h : host.Steady s) (hs : host.Reaches s s') (c : Constraint)
    (v : Value) : (c.evaluate host v s').result = (c.evaluate (host.frozen s) v ()).result :=
  (related_evaluate h.simulates_frozen c v s' () hs).1

end Steady

/-! ## The states that evaluation ends in -/

/-- Trials that end in a state that questions lead to compose to such trials. -/
def Trial.reaching (host : Host σ) : Congruence σ σ where
  Rel t _ := ∀ s, host.Reaches s (t s).state
  pure _ _ := .start
  bind ht hf s := (ht s).trans (hf _ _)

section Reaching

variable (host : Host σ) (v : Value) (name : String) (s : σ)

theorem corresponds_reaching : host.Corresponds (Trial.reaching host) host where
  propertyOf o name _ := .propertyOf .start o name
  attributeOf o name _ := .attributeOf .start o name
  instanceOf o name _ := .instanceOf .start o name
  assignableFrom o name _ := .assignableFrom .start o name
  raised c _ := .run .start c

theorem reaches_property? : host.Reaches s (v.property? host name s).state :=
  Trial.Congruence.property? (corresponds_reaching host) v name s

theorem reaches_attribute? : host.Reaches s (v.attribute? host name s).state :=
  Trial.Congruence.attribute? (corresponds_reaching host) v name s

/-- **Evaluation** ends in a state that questions lead to. -/
theorem reaches_evaluate (c : Constraint) : host.Reaches s (c.evaluate host v s).state :=
  Trial.Congruence.evaluate (corresponds_reaching host) c v s

end Reaching

end Expectation
