import Expectation.Proofs.Assertion.Fallback
import Expectation.Proofs.Constraint.Sequence

/-!
# What assertions ask of the host

Testing comes to each node of a tree at most once for each value that the node is to test, and there it
asks the host one question at most. Nothing is asked any more once there is a verdict.

* `Constraint.nodes`, `Constraint.countOver`: the nodes of a tree, and how often a test may come to them;
* `Visit`, `Visits`: a node with a value, and those that a test comes to;
* `Visit.Makes`, `Accounted`: the calls of one visit, and of several;
* `Trial.OneByOne`, `Quantifier.oneByOne_over`: what is asked about a list, item by item;
* **`accounts_evaluate`**: what evaluation asks;
* `Visits.sublist_nodes`, `Visits.countP_le`: how many visits there are;
* **`asked_once`**: how often the host is asked, and that a verdict is the end of it.
-/

namespace Expectation

/-! ## Nodes -/

namespace Constraint

/-- The nodes of the tree, each before those below it. -/
def nodes : Constraint → List Constraint
  | not c => not c :: nodes c
  | items q c => items q c :: nodes c
  | propertyIs s c => propertyIs s c :: nodes c
  | attributeIs s c => attributeIs s c :: nodes c
  | throwsMatching c => throwsMatching c :: nodes c
  | and a b => and a b :: (nodes a ++ nodes b)
  | or a b => or a b :: (nodes a ++ nodes b)
  | c => [c]

/-- The node runs code. -/
def runsCode : Constraint → Bool
  | throws | throwsNothing | throwsMatching _ => true
  | _ => false

/-- The node asks the host something: it looks for a property or an attribute, asks for a type or runs
code. -/
def asks : Constraint → Bool
  | propertyIs _ _ | attributeIs _ _ | hasProperty _ | hasAttribute _ | instanceOf _
  | assignableFrom _ => true
  | c => c.runsCode

/-- No node is a quantifier. -/
def QuantifierFree : Constraint → Prop
  | items _ _ => False
  | not c | propertyIs _ c | attributeIs _ c | throwsMatching c => QuantifierFree c
  | and a b | or a b => QuantifierFree a ∧ QuantifierFree b
  | _ => True

/-- The number of nodes of a kind, with those below a quantifier counted once for each of its items. -/
def countOver (kind : Constraint → Bool) (size : Constraint → Nat) : Constraint → Nat
  | not c => (kind (not c)).toNat + countOver kind size c
  | items q c => (kind (items q c)).toNat + size (items q c) * countOver kind size c
  | propertyIs s c => (kind (propertyIs s c)).toNat + countOver kind size c
  | attributeIs s c => (kind (attributeIs s c)).toNat + countOver kind size c
  | throwsMatching c => (kind (throwsMatching c)).toNat + countOver kind size c
  | and a b => (kind (and a b)).toNat + (countOver kind size a + countOver kind size b)
  | or a b => (kind (or a b)).toNat + (countOver kind size a + countOver kind size b)
  | c => (kind c).toNat

theorem countP_nodes_cons (kind : Constraint → Bool) (c : Constraint) (below : List Constraint) :
    (c :: below).countP kind = (kind c).toNat + below.countP kind := by
  rw [List.countP_cons, Nat.add_comm]
  cases kind c <;> rfl

end Constraint

/-- The call is a run of code. -/
def Call.isRun : Call → Bool
  | run _ => true
  | _ => false

/-! ## Visits -/

/-- A node, and a value that it tests. -/
structure Visit where
  node : Constraint
  value : Value

/-- The visits of one test, in order. It may not come to a node, or not to those below it. If it does, it
comes to the node once, and below a quantifier once with each item. -/
inductive Visits {σ : Type} (host : Host σ) : Constraint → Value → List Visit → Prop
  | none (c : Constraint) (v : Value) : Visits host c v []
  | one (c : Constraint) (v : Value) : Visits host c v [⟨c, v⟩]
  | not {c : Constraint} {v : Value} {below : List Visit} (h : Visits host c v below) :
      Visits host (.not c) v (⟨.not c, v⟩ :: below)
  | and {a b : Constraint} {v : Value} {left right : List Visit} (ha : Visits host a v left)
      (hb : Visits host b v right) : Visits host (.and a b) v (⟨.and a b, v⟩ :: (left ++ right))
  | or {a b : Constraint} {v : Value} {left right : List Visit} (ha : Visits host a v left)
      (hb : Visits host b v right) : Visits host (.or a b) v (⟨.or a b, v⟩ :: (left ++ right))
  | items (q : Quantifier) {c : Constraint} {members : List Value} {parts : List (List Visit)}
      (hlength : members.length = parts.length)
      (h : ∀ {m part}, (m, part) ∈ members.zip parts → Visits host c m part) :
      Visits host (.items q c) (.list members) (⟨.items q c, .list members⟩ :: parts.flatten)
  | within {frame inner : Constraint} {v found : Value} {s : σ} {below : List Visit}
      (henc : Constraint.Encloses frame inner) (hfound : derived? host s frame v = some found)
      (h : Visits host inner found below) : Visits host frame v (⟨frame, v⟩ :: below)

/-- A quantifier does not test more items than it is said to. -/
def Visit.Fits (size : Constraint → Nat) : Visit → Prop
  | ⟨.items q c, .list members⟩ => members.length ≤ size (.items q c)
  | _ => True

/-- The visit may lead to the call: one about the tested value, of the kind of the node and with the name
that it looks for. -/
inductive Visit.Makes : Visit → Call → Prop
  | instanceOf (name : String) (o : HostObject) :
      Makes ⟨.instanceOf name, .object o⟩ (.instanceOf o name)
  | assignableFrom (name : String) (o : HostObject) :
      Makes ⟨.assignableFrom name, .object o⟩ (.assignableFrom o name)
  | hasProperty (name : String) (o : HostObject) :
      Makes ⟨.hasProperty name, .object o⟩ (.propertyOf o name)
  | hasAttribute (name : String) (o : HostObject) :
      Makes ⟨.hasAttribute name, .object o⟩ (.attributeOf o name)
  | propertyIs (name : String) (inner : Constraint) (o : HostObject) :
      Makes ⟨.propertyIs name inner, .object o⟩ (.propertyOf o name)
  | attributeIs (name : String) (inner : Constraint) (o : HostObject) :
      Makes ⟨.attributeIs name inner, .object o⟩ (.attributeOf o name)
  | throws (code : Code) : Makes ⟨.throws, .code code⟩ (.run code)
  | throwsNothing (code : Code) : Makes ⟨.throwsNothing, .code code⟩ (.run code)
  | throwsMatching (inner : Constraint) (code : Code) :
      Makes ⟨.throwsMatching inner, .code code⟩ (.run code)

/-- The visits lead to the calls, each to one at most and in their order. -/
def Accounted (visits : List Visit) (calls : List Call) : Prop :=
  ∃ made, made.Sublist visits ∧ List.Forall₂ Visit.Makes made calls

section Visits

variable {visit : Visit} {visits visits' : List Visit} {call : Call} {calls calls' : List Call}

theorem Visit.Makes.asks (h : visit.Makes call) : visit.node.asks = true := by
  cases h <;> rfl

theorem Visit.Makes.runsCode (h : visit.Makes call) (hrun : call.isRun = true) :
    visit.node.runsCode = true := by
  cases h <;> first | rfl | cases hrun

namespace Accounted

theorem nil (visits : List Visit) : Accounted visits [] := ⟨[], List.nil_sublist _, .nil⟩

theorem one (h : visit.Makes call) : Accounted [visit] [call] := ⟨[visit], .refl _, .cons h .nil⟩

theorem append (h : Accounted visits calls) (h' : Accounted visits' calls') :
    Accounted (visits ++ visits') (calls ++ calls') := by
  obtain ⟨made, hsublist, hmakes⟩ := h
  obtain ⟨made', hsublist', hmakes'⟩ := h'
  exact ⟨made ++ made', hsublist.append hsublist', List.rel_append hmakes hmakes'⟩

theorem cons (visit : Visit) (h : Accounted visits calls) : Accounted (visit :: visits) calls :=
  (nil [visit]).append h

theorem countP_le {p : Call → Bool} {q : Constraint → Bool} (h : Accounted visits calls)
    (hq : ∀ {visit : Visit} {call}, visit.Makes call → p call = true → q visit.node = true) :
    calls.countP p ≤ (visits.map Visit.node).countP q := by
  obtain ⟨made, hsublist, hmakes⟩ := h
  have hmade : calls.countP p ≤ (made.map Visit.node).countP q := by
    clear hsublist
    induction hmakes with
    | nil => exact Nat.le_refl 0
    | cons hmake _ ih =>
      rw [List.map_cons, List.countP_cons, List.countP_cons]
      refine Nat.add_le_add ih ?_
      split_ifs with hp hnot
      · exact Nat.le_refl 1
      · exact absurd (hq hmake hp) hnot
      all_goals exact Nat.zero_le _
  exact hmade.trans ((hsublist.map _).countP_le)

end Accounted

end Visits

/-! ## Items -/

section Items

variable {σ α : Type}

/-- What is asked about members that are tested one after the other, up to one of them. -/
inductive Trial.OneByOne (p : α → Trial σ Bool) : List α → List Call → Prop
  | stop (members : List α) : OneByOne p members []
  | next (m : α) (s : σ) {members : List α} {calls : List Call} (h : OneByOne p members calls) :
      OneByOne p (m :: members) ((p m s).calls ++ calls)

namespace Trial.OneByOne

variable {p : α → Trial σ Bool} {members : List α} {calls : List Call}

theorem anyM (p : α → Trial σ Bool) (members : List α) (s : σ) :
    OneByOne p members (members.anyM p s).calls := by
  induction members generalizing s with
  | nil => exact .stop []
  | cons m members ih =>
    rw [List.anyM, bind_apply]
    cases (p m s).result with
    | true => exact .next m s (.stop members)
    | false => exact .next m s (ih _)

theorem allM (p : α → Trial σ Bool) (members : List α) (s : σ) :
    OneByOne p members (members.allM p s).calls := by
  induction members generalizing s with
  | nil => exact .stop []
  | cons m members ih =>
    rw [List.allM, bind_apply]
    cases (p m s).result with
    | true => exact .next m s (ih _)
    | false => exact .next m s (.stop members)

theorem countP_le {kind : Call → Bool} {n : Nat} (h : OneByOne p members calls)
    (hle : ∀ m ∈ members, ∀ s, (p m s).calls.countP kind ≤ n) :
    calls.countP kind ≤ members.length * n := by
  induction h with
  | stop members => exact Nat.zero_le _
  | next m s _ ih =>
    rw [List.countP_append, List.length_cons, Nat.succ_mul, Nat.add_comm]
    exact Nat.add_le_add (ih fun m hm => hle m (List.mem_cons_of_mem _ hm)) (hle m List.mem_cons_self s)

end Trial.OneByOne

theorem Quantifier.oneByOne_over (q : Quantifier) (p : Value → Trial σ Bool) (members : List Value)
    (s : σ) : Trial.OneByOne p members (q.over p members s).calls := by
  cases q with
  | all => exact .allM p members s
  | some => exact .anyM p members s
  | none =>
    have hcalls : (Quantifier.none.over p members s).calls = (members.anyM p s).calls :=
      List.append_nil _
    rw [hcalls]
    exact .anyM p members s

end Items

/-! ## Evaluation -/

section Evaluate

variable {σ : Type} {host : Host σ} {a b c frame inner : Constraint} {v found : Value} {s : σ}
  {visit : Visit} {call : Call} {calls own below : List Call} {name : String}

/-- A test makes the calls, and visits that are to be made account for them. -/
def Constraint.Accounts (host : Host σ) (c : Constraint) (v : Value) (calls : List Call) : Prop :=
  ∃ visits, Visits host c v visits ∧ Accounted visits calls

/-- One visit makes the calls, of which there is one at most. -/
def Visit.AsksOnce (visit : Visit) (calls : List Call) : Prop :=
  calls = [] ∨ ∃ call, visit.Makes call ∧ calls = [call]

theorem Visit.AsksOnce.accounted (h : visit.AsksOnce calls) : Accounted [visit] calls := by
  obtain rfl | ⟨call, hmakes, rfl⟩ := h
  · exact .nil _
  · exact .one hmakes

theorem asksOnce_property? (h : ∀ o, Visit.Makes ⟨c, .object o⟩ (.propertyOf o name)) :
    Visit.AsksOnce ⟨c, v⟩ (v.property? host name s).calls := by
  cases v with
  | object o => exact .inr ⟨_, h o, rfl⟩
  | _ => exact .inl rfl

theorem asksOnce_attribute? (h : ∀ o, Visit.Makes ⟨c, .object o⟩ (.attributeOf o name)) :
    Visit.AsksOnce ⟨c, v⟩ (v.attribute? host name s).calls := by
  cases v with
  | object o => exact .inr ⟨_, h o, rfl⟩
  | _ => exact .inl rfl

theorem asksOnce_isInstance (h : ∀ o, Visit.Makes ⟨c, .object o⟩ (.instanceOf o name)) :
    Visit.AsksOnce ⟨c, v⟩ (v.isInstance host name s).calls := by
  cases v with
  | object o => exact .inr ⟨_, h o, rfl⟩
  | _ => exact .inl rfl

theorem asksOnce_isAssignable (h : ∀ o, Visit.Makes ⟨c, .object o⟩ (.assignableFrom o name)) :
    Visit.AsksOnce ⟨c, v⟩ (v.isAssignable host name s).calls := by
  cases v with
  | object o => exact .inr ⟨_, h o, rfl⟩
  | _ => exact .inl rfl

namespace Constraint.Accounts

theorem one (h : Visit.AsksOnce ⟨c, v⟩ calls) : c.Accounts host v calls :=
  ⟨_, .one c v, h.accounted⟩

theorem nil (c : Constraint) (v : Value) : c.Accounts host v [] := one (.inl rfl)

theorem not (h : c.Accounts host v calls) : c.not.Accounts host v calls := by
  obtain ⟨visits, hvisits, hcalls⟩ := h
  exact ⟨_, .not hvisits, hcalls.cons _⟩

theorem apply (k : Connective) {left right : List Call} (ha : a.Accounts host v left)
    (hb : b.Accounts host v right) : (k.apply a b).Accounts host v (left ++ right) := by
  obtain ⟨visits, hvisits, hcalls⟩ := ha
  obtain ⟨visits', hvisits', hcalls'⟩ := hb
  cases k with
  | and => exact ⟨_, .and hvisits hvisits', (hcalls.append hcalls').cons _⟩
  | or => exact ⟨_, .or hvisits hvisits', (hcalls.append hcalls').cons _⟩

theorem within (henc : Encloses frame inner) (hown : Visit.AsksOnce ⟨frame, v⟩ own)
    (hfound : derived? host s frame v = some found) (h : inner.Accounts host found below) :
    frame.Accounts host v (own ++ below) := by
  obtain ⟨visits, hvisits, hcalls⟩ := h
  exact ⟨_, .within henc hfound hvisits, hown.accounted.append hcalls⟩

theorem items (q : Quantifier) {p : Value → Trial σ Bool} {members : List Value}
    (h : Trial.OneByOne p members calls) (hp : ∀ m s, c.Accounts host m (p m s).calls) :
    (Constraint.items q c).Accounts host (.list members) calls := by
  have hparts : ∃ parts, List.Forall₂ (Visits host c) members parts ∧ Accounted parts.flatten calls := by
    induction h with
    | stop members =>
      -- the members after the one that decides are not tested
      refine ⟨members.map fun _ => [], ?_, .nil _⟩
      exact List.forall₂_map_right_iff.mpr (List.forall₂_same.mpr fun m _ => .none c m)
    | next m s _ ih =>
      obtain ⟨visits, hvisits, hcalls⟩ := hp m s
      obtain ⟨parts, hparts, hrest⟩ := ih
      exact ⟨visits :: parts, .cons hvisits hparts, hcalls.append hrest⟩
  obtain ⟨parts, hvisits, hcalls⟩ := hparts
  obtain ⟨hlength, hmem⟩ := List.forall₂_iff_zip.mp hvisits
  exact ⟨_, .items q hlength hmem, hcalls.cons _⟩

end Constraint.Accounts

theorem accounts_apply (k : Connective) (ha : a.Accounts host v (a.evaluate host v s).calls)
    (hb : ∀ s, b.Accounts host v (b.evaluate host v s).calls) :
    (k.apply a b).Accounts host v ((k.apply a b).evaluate host v s).calls := by
  cases hdecides : k.decides (a.evaluate host v s).result with
  | true =>
    -- there is no visit of the right branch
    rw [evaluate_apply_of_decides hdecides, Outcome.map, ← List.append_nil (Outcome.calls _)]
    exact .apply k ha ⟨[], .none b v, .nil _⟩
  | false =>
    rw [evaluate_apply_of_not_decides hdecides]
    exact .apply k ha (hb _)

theorem Trial.calls_bind {α β : Type} {t : Trial σ α} {a : α} (h : (t s).result = a)
    (g : α → Trial σ β) : ((t >>= g) s).calls = (t s).calls ++ (g a (t s).state).calls := by
  rw [bind_apply, h]

theorem Trial.calls_bind_pure {α β : Type} (t : Trial σ α) (f : α → β) (s : σ) :
    ((do pure (f (← t)) : Trial σ β) s).calls = (t s).calls :=
  List.append_nil _

theorem accounts_lookup {t : Trial σ (Option Value)} (henc : Constraint.Encloses frame inner)
    (heval : frame.evaluate host v = (do
      match ← t with
      | some found => pure ((← inner.evaluate host found).within frame)
      | none => pure (frame.blame (.value v))))
    (hderived : derived? host s frame v = (t s).result) (hown : Visit.AsksOnce ⟨frame, v⟩ (t s).calls)
    (ih : ∀ v s, inner.Accounts host v (inner.evaluate host v s).calls) :
    frame.Accounts host v (frame.evaluate host v s).calls := by
  rw [heval]
  cases hfound : (t s).result with
  | some found =>
    rw [Trial.calls_bind hfound, Trial.calls_bind_pure]
    exact .within henc hown (hderived.trans hfound) (ih found _)
  | none =>
    rw [Trial.calls_bind hfound]
    change frame.Accounts host v ((t s).calls ++ [])
    rw [List.append_nil]
    exact .one hown

/-- **What evaluation asks** is what visits ask that come to each node once for each value. -/
theorem accounts_evaluate (host : Host σ) (c : Constraint) (v : Value) (s : σ) :
    c.Accounts host v (c.evaluate host v s).calls := by
  -- the state is general, since a test starts where the one before it ended
  induction c generalizing v s with
  | isEmpty =>
    cases v with
    | list members => cases members <;> exact .nil _ _
    | _ => exact .nil _ _
  | instanceOf name =>
    rw [Constraint.evaluate, Trial.calls_bind_pure]
    exact .one (asksOnce_isInstance fun o => .instanceOf name o)
  | assignableFrom name =>
    rw [Constraint.evaluate, Trial.calls_bind_pure]
    exact .one (asksOnce_isAssignable fun o => .assignableFrom name o)
  | hasProperty name =>
    rw [Constraint.evaluate, Trial.calls_bind_pure]
    exact .one (asksOnce_property? fun o => .hasProperty name o)
  | hasAttribute name =>
    rw [Constraint.evaluate, Trial.calls_bind_pure]
    exact .one (asksOnce_attribute? fun o => .hasAttribute name o)
  | throws =>
    cases v with
    | code code =>
      have hcalls : (Constraint.throws.evaluate host (.code code) s).calls = [.run code] := by
        cases hrun : (host.raised code s).result <;> exact Trial.calls_bind hrun _
      exact hcalls ▸ .one (.inr ⟨_, .throws code, rfl⟩)
    | _ => exact .nil _ _
  | throwsNothing =>
    cases v with
    | code code =>
      have hcalls : (Constraint.throwsNothing.evaluate host (.code code) s).calls = [.run code] := by
        cases hrun : (host.raised code s).result <;> exact Trial.calls_bind hrun _
      exact hcalls ▸ .one (.inr ⟨_, .throwsNothing code, rfl⟩)
    | _ => exact .nil _ _
  | not inner ih =>
    have hcalls : (inner.not.evaluate host v s).calls = (inner.evaluate host v s).calls :=
      Trial.calls_bind_pure ..
    exact hcalls ▸ (ih v s).not
  | items q inner ih =>
    cases v with
    | list members =>
      rw [evaluate_items_list, Trial.calls_bind_pure]
      refine .items q (q.oneByOne_over _ members s) fun m s => ?_
      rw [Constraint.satisfied_apply]
      exact ih m s
    | _ => exact .nil _ _
  | and a b iha ihb => exact accounts_apply .and (iha v s) (ihb v)
  | or a b iha ihb => exact accounts_apply .or (iha v s) (ihb v)
  | propertyIs name inner ih =>
    exact accounts_lookup (.propertyIs name inner) rfl rfl
      (asksOnce_property? fun o => .propertyIs name inner o) ih
  | attributeIs name inner ih =>
    exact accounts_lookup (.attributeIs name inner) rfl rfl
      (asksOnce_attribute? fun o => .attributeIs name inner o) ih
  | throwsMatching inner ih =>
    cases v with
    | code code =>
      have hown : Visit.AsksOnce ⟨.throwsMatching inner, .code code⟩ (host.raised code s).calls :=
        .inr ⟨_, .throwsMatching inner code, rfl⟩
      cases hrun : (host.raised code s).result with
      | some fault =>
        have hfound : derived? host s inner.throwsMatching (.code code) = some (.fault fault) :=
          congrArg (Option.map Value.fault) hrun
        rw [Constraint.evaluate, Trial.calls_bind hrun, Trial.calls_bind_pure]
        exact .within (.throwsMatching inner) hown hfound (ih (.fault fault) _)
      | none =>
        have hcalls : (inner.throwsMatching.evaluate host (.code code) s).calls = _ :=
          (Trial.calls_bind hrun _).trans (List.append_nil _)
        exact hcalls ▸ .one hown
    | _ => exact .nil _ _
  | _ => exact .nil _ _

end Evaluate

/-! ## How often the host is asked -/

section Bounds

variable {σ : Type} {host : Host σ} {c : Constraint} {v : Value} {s : σ} {visits : List Visit}

theorem Visits.sublist_nodes (h : Visits host c v visits) (hfree : c.QuantifierFree) :
    (visits.map Visit.node).Sublist c.nodes := by
  induction h with
  | none => exact List.nil_sublist _
  | one c v => cases c <;> exact (List.nil_sublist _).cons_cons _
  | not _ ih => exact (ih hfree).cons_cons _
  | and _ _ iha ihb | or _ _ iha ihb =>
    rw [List.map_cons, List.map_append]
    exact ((iha hfree.1).append (ihb hfree.2)).cons_cons _
  | items => exact hfree.elim
  | within henc _ _ ih => cases henc <;> exact (ih hfree).cons_cons _

theorem countP_flatten_le {kind : Constraint → Bool} {n : Nat} {parts : List (List Visit)}
    (h : ∀ part ∈ parts, (part.map Visit.node).countP kind ≤ n) :
    (parts.flatten.map Visit.node).countP kind ≤ parts.length * n := by
  induction parts with
  | nil => exact Nat.zero_le _
  | cons part parts ih =>
    rw [List.flatten_cons, List.map_append, List.countP_append, List.length_cons, Nat.succ_mul,
      Nat.add_comm]
    exact Nat.add_le_add (ih fun p hp => h p (.tail _ hp)) (h part (.head _))

theorem Visits.countP_le {size : Constraint → Nat} (kind : Constraint → Bool)
    (h : Visits host c v visits) (hsize : ∀ visit ∈ visits, visit.Fits size) :
    (visits.map Visit.node).countP kind ≤ c.countOver kind size := by
  induction h with
  | none => exact Nat.zero_le _
  | one c v =>
    rw [List.map_cons, Constraint.countP_nodes_cons]
    cases c with
    | not | items | propertyIs | attributeIs | throwsMatching | and | or => exact Nat.le_add_right _ _
    | _ => exact Nat.le_refl _
  | not _ ih =>
    rw [List.map_cons, Constraint.countP_nodes_cons]
    exact Nat.add_le_add_left (ih (List.forall_mem_cons.mp hsize).2) _
  | and _ _ iha ihb | or _ _ iha ihb =>
    rw [List.forall_mem_cons, List.forall_mem_append] at hsize
    rw [List.map_cons, Constraint.countP_nodes_cons, List.map_append, List.countP_append]
    exact Nat.add_le_add_left (Nat.add_le_add (iha hsize.2.1) (ihb hsize.2.2)) _
  | @items q c members parts hlength _ ih =>
    rw [List.forall_mem_cons] at hsize
    have hsnd : (members.zip parts).map Prod.snd = parts := List.map_snd_zip hlength.ge
    have hparts : ∀ part ∈ parts, (part.map Visit.node).countP kind ≤ c.countOver kind size := by
      intro part hpart
      obtain ⟨⟨m, part⟩, hzip, rfl⟩ := List.mem_map.mp (hsnd.symm ▸ hpart)
      exact ih hzip fun visit hmem => hsize.2 visit (List.mem_flatten_of_mem hpart hmem)
    have hitems : parts.length ≤ size (.items q c) := hlength ▸ hsize.1
    rw [List.map_cons, Constraint.countP_nodes_cons]
    exact Nat.add_le_add_left ((countP_flatten_le hparts).trans (Nat.mul_le_mul_right _ hitems)) _
  | within henc _ _ ih =>
    rw [List.map_cons, Constraint.countP_nodes_cons]
    have hbelow := ih (List.forall_mem_cons.mp hsize).2
    cases henc <;> exact Nat.add_le_add_left hbelow _

theorem countP_calls_items_le {kind : Call → Bool} {n : Nat} (q : Quantifier) (members : List Value)
    (hle : ∀ m ∈ members, ∀ s, (c.evaluate host m s).calls.countP kind ≤ n) (s : σ) :
    ((Constraint.items q c).evaluate host (.list members) s).calls.countP kind ≤ members.length * n := by
  rw [evaluate_items_list, Trial.calls_bind_pure]
  refine (q.oneByOne_over _ members s).countP_le fun m hm s => ?_
  rw [Constraint.satisfied_apply]
  exact hle m hm s

theorem Accounted.asks_le {calls : List Call} (h : Accounted visits calls) :
    calls.length ≤ (visits.map Visit.node).countP Constraint.asks ∧
      calls.countP Call.isRun ≤ (visits.map Visit.node).countP Constraint.runsCode := by
  refine ⟨?_, h.countP_le Visit.Makes.runsCode⟩
  rw [← List.countP_true]
  exact h.countP_le fun hmakes _ => hmakes.asks

theorem calls_le_of_quantifierFree (host : Host σ) (hfree : c.QuantifierFree) (v : Value) (s : σ) :
    (c.evaluate host v s).calls.length ≤ c.nodes.countP Constraint.asks ∧
      (c.evaluate host v s).calls.countP Call.isRun ≤ c.nodes.countP Constraint.runsCode := by
  obtain ⟨visits, hvisits, hcalls⟩ := accounts_evaluate host c v s
  have hsublist := hvisits.sublist_nodes hfree
  exact ⟨hcalls.asks_le.1.trans hsublist.countP_le, hcalls.asks_le.2.trans hsublist.countP_le⟩

/-- **Nothing is asked twice.** Visits that come to each node of a tree at most once for each value make
the calls, each visit one at most. So a tree without quantifiers makes at most one call for each node
that asks something, and runs code at most once for each that runs code; and a quantifier makes for each
item no more calls than its inner constraint does. However an assertion ends, it makes the calls of
computing and testing its value only: none are made for the message or the text of a failure. -/
theorem asked_once (host : Host σ) :
    (∀ c v s, let calls := (c.evaluate host v s).calls
      (∃ visits, Visits host c v visits ∧ Accounted visits calls) ∧
      (c.QuantifierFree →
        (∃ made, (made.map Visit.node).Sublist c.nodes ∧ List.Forall₂ Visit.Makes made calls) ∧
        calls.length ≤ c.nodes.countP Constraint.asks ∧
        calls.countP Call.isRun ≤ c.nodes.countP Constraint.runsCode) ∧
      ∀ size, (∀ visits, Visits host c v visits → ∀ visit ∈ visits, visit.Fits size) →
        calls.length ≤ c.countOver Constraint.asks size ∧
        calls.countP Call.isRun ≤ c.countOver Constraint.runsCode size) ∧
    (∀ q inner members s, let calls := ((Constraint.items q inner).evaluate host (.list members) s).calls
      (∀ kind n, (∀ m ∈ members, ∀ s, (inner.evaluate host m s).calls.countP kind ≤ n) →
        calls.countP kind ≤ members.length * n) ∧
      (inner.QuantifierFree →
        calls.length ≤ members.length * inner.nodes.countP Constraint.asks ∧
        calls.countP Call.isRun ≤ members.length * inner.nodes.countP Constraint.runsCode)) ∧
    ∀ (settings : Settings) (actual : Actual σ) (goal : Goal) (message : Message) (counter : Counter)
      (s : σ) (c : Constraint), goal.resolve = .ok c →
      let computed := actual.compute counter.increment s
      let outcome := (settings.prepare c).evaluate host computed.result computed.state
      let report := assertThat host settings actual goal message counter s
      report.calls = computed.calls ++ outcome.calls ∧ report.state = outcome.state := by
  refine ⟨fun c v s => ?_, fun q inner members s => ?_, fun settings actual _ _ _ _ _ h => ?_⟩
  · obtain ⟨visits, hvisits, hcalls⟩ := accounts_evaluate host c v s
    refine ⟨⟨visits, hvisits, hcalls⟩, fun hfree => ⟨?_, calls_le_of_quantifierFree host hfree v s⟩,
      fun size hsize => ?_⟩
    · obtain ⟨made, hsublist, hmakes⟩ := hcalls
      exact ⟨made, (hsublist.map _).trans (hvisits.sublist_nodes hfree), hmakes⟩
    · have hcount (kind : Constraint → Bool) := hvisits.countP_le kind (hsize visits hvisits)
      exact ⟨hcalls.asks_le.1.trans (hcount _), hcalls.asks_le.2.trans (hcount _)⟩
  · refine ⟨fun kind n hle => countP_calls_items_le q members hle s, fun hfree => ⟨?_, ?_⟩⟩
    · rw [← List.countP_true]
      refine countP_calls_items_le q members (fun m _ s => ?_) s
      rw [List.countP_true]
      exact (calls_le_of_quantifierFree host hfree m s).1
    · exact countP_calls_items_le q members
        (fun m _ s => (calls_le_of_quantifierFree host hfree m s).2) s
  · exact ⟨(assertThat_of_resolve settings h).2.2.2, (assertThat_of_resolve settings h).2.2.1⟩

end Bounds

end Expectation
