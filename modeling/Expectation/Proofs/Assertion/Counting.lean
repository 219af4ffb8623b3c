import Mathlib.Algebra.Ring.Nat
import Expectation.Assertion.Session
import Expectation.Proofs.Constraint.Satisfaction
import Expectation.Proofs.Host.Congruence

/-!
# What assertions count

Every assertion whose goal resolves is counted once, however it ends, and nothing else is. So what the
resets of a counter have read, and what it shows at last, is the number of these assertions.

* `Place`, `Counters.at`: the two counters;
* `Request`, `Assertion`: a command with its session, and what it asserts;
* `Moment`, `course`: a request with what it finds, and a series of requests;
* `Follows`: what an assertion does, if its goal resolves and if not;
* `Moment.at_step`, `Moment.accounted`: what one request does to a counter, and to all else;
* `readings_add_count`: what a whole series reads from it and leaves of it;
* **`counted_once`**: all requests of every series.
-/

namespace Expectation

variable {σ α : Type}

/-! ## The counters -/

/-- One of the two counters of a session. -/
inductive Place where
  | shared
  | own
deriving DecidableEq

/-- The counter in a place. -/
def Counters.at (counters : Counters) : Place → Counter
  | .shared => counters.shared
  | .own => counters.own

/-- The counters with another one in a place. -/
def Counters.set (counters : Counters) (c : Counter) : Place → Counters
  | .shared => { counters with shared := c }
  | .own => { counters with own := c }

theorem Counters.at_set (counters : Counters) (c : Counter) (p q : Place) :
    (counters.set c p).at q = if p = q then c else counters.at q := by
  cases p <;> cases q <;> rfl

theorem Counters.set_at (counters : Counters) (p : Place) : counters.set (counters.at p) p = counters := by
  cases p <;> rfl

/-- The place of the counter that the session counts on. -/
def Session.place (session : Session) : Place := if session.countsShared then .shared else .own

theorem Session.counter_eq (session : Session) (counters : Counters) :
    session.counter counters = counters.at session.place := by
  unfold Session.counter Session.place
  split <;> rfl

theorem Session.withCounter_eq (session : Session) (counters : Counters) :
    session.withCounter counters = (counters.set · session.place) := by
  funext c
  unfold Session.withCounter Session.place
  split <;> rfl

/-! ## Requests -/

/-- A command and the session that it is given in. -/
structure Request (σ : Type) where
  session : Session
  command : Command σ

/-- An assertion: the place where it is counted, its settings, the value under test and the goal. -/
structure Assertion (σ : Type) where
  place : Place
  settings : Settings
  actual : Actual σ
  goal : Goal

namespace Request

/-- What the request asserts. -/
def assertion? (r : Request σ) : Option (Assertion σ) :=
  match r.command with
  | .assert actual goal _ => some ⟨r.session.place, r.session.settings, actual, goal⟩
  | .assertFreely actual goal _ => some ⟨.shared, .default, actual, goal⟩
  | .check c => some ⟨.shared, .default, c.actual, .chain (.ofWords c.words)⟩
  | .checkThrows kind code =>
    some ⟨.shared, .default, .value (.code code), .chain (.ofWords (Chain.faultOfKind kind))⟩
  | _ => none

/-- The counter that the request reads and sets back. -/
def resets? (r : Request σ) : Option Place :=
  match r.command with
  | .reset => some r.session.place
  | .assertCount => some .shared
  | _ => none

/-- The request is an assertion that is counted in the place, and its goal resolves. -/
def counts (place : Place) (r : Request σ) : Bool :=
  r.assertion?.any fun a => decide (a.place = place) && a.goal.resolve.isOk

end Request

/-- A request, with the counters and the state that it finds. -/
structure Moment (σ : Type) where
  request : Request σ
  counters : Counters
  state : σ

/-- What the request does. -/
def Moment.step (host : Host σ) (m : Moment σ) : Step σ :=
  m.request.session.perform host m.counters m.state m.request.command

/-- The moments of a series of requests, one after the other. -/
def course (host : Host σ) (counters : Counters) (state : σ) : List (Request σ) → List (Moment σ)
  | [] => []
  | r :: rest =>
    let m : Moment σ := ⟨r, counters, state⟩
    m :: course host (m.step host).counters (m.step host).state rest

/-- The counters after a series of requests. -/
def countersAfter (host : Host σ) (counters : Counters) (state : σ) : List (Request σ) → Counters
  | [] => counters
  | r :: rest =>
    let m : Moment σ := ⟨r, counters, state⟩
    countersAfter host (m.step host).counters (m.step host).state rest

/-! ## One assertion -/

/-- The ends of an assertion that was counted: a value that is accepted, or rejected, or rejected with a
message that cannot be filled in. -/
def Reply.isVerdict : Reply → Bool
  | passed | fault _ | ended (.failed _) | ended (.format _) => true
  | _ => false

/-- What an assertion does with a counter and a state. If its goal does not resolve it does nothing but say
so. Otherwise it is counted, and then its value is computed, once, and judged. -/
structure Follows (host : Host σ) (a : Assertion σ) (counter : Counter) (state : σ) (r : Report σ α) :
    Prop where
  malformed : ∀ e, a.goal.resolve = .error e →
    r.result = .error (.malformed e) ∧ r.counter = counter ∧ r.calls = [] ∧ r.state = state
  counted : ∀ c, a.goal.resolve = .ok c →
    r.counter = counter.increment ∧ ∀ e, r.result = .error e → (Reply.ended e).isVerdict = true
  computed : ∀ c compute, a.goal.resolve = .ok c → a.actual = .onDemand compute →
    let value := compute counter.increment state
    let judged := (a.settings.prepare c).evaluate host value.result value.state
    r.calls = .compute :: value.calls ++ judged.calls ∧ .compute ∉ judged.calls ∧
      r.state = judged.state

section Follows

variable {host : Host σ} {settings : Settings} {actual : Actual σ} {goal : Goal} {message : Message}
  {counter : Counter} {state : σ} {c : Constraint}

theorem assertThat_of_error {e : BuildError} (h : goal.resolve = .error e) :
    assertThat host settings actual goal message counter state =
      ⟨.error (.malformed e), counter, state, [], goal.events⟩ := by
  rw [assertThat, h]

theorem isVerdict_of_conclude {count : UInt64} {verdict : Verdict} {e : AssertError}
    (h : (conclude settings message count c verdict).1 = .error e) :
    (Reply.ended e).isVerdict = true := by
  unfold conclude at h
  split at h
  · cases h
  · split at h <;> cases h <;> rfl

/-- **An assertion** is counted before its value is computed, if its goal resolves. -/
theorem follows_assertThat (host : Host σ) (a : Assertion σ) (message : Message) (counter : Counter)
    (state : σ) :
    Follows host a counter state (assertThat host a.settings a.actual a.goal message counter state) where
  malformed e h := by
    rw [assertThat_of_error h]
    exact ⟨rfl, rfl, rfl, rfl⟩
  counted c h := by
    rw [assertThat, h]
    exact ⟨rfl, fun e he => isVerdict_of_conclude he⟩
  computed c compute h hactual := by
    intro value judged
    rw [assertThat, h, hactual]
    exact ⟨rfl, fun hmem => asks_evaluate host _ _ _ _ hmem rfl, rfl⟩

theorem follows_throws (host : Host σ) (kind : String) (code : Code) (counter : Counter) (state : σ) :
    Follows host ⟨.shared, .default, .value (.code code), .chain (.ofWords (Chain.faultOfKind kind))⟩
      counter state (Classic.throws kind code host counter state) := by
  let a : Assertion (σ × Option Fault) :=
    ⟨.shared, .default, .value (.code code), .chain (.ofWords (Chain.faultOfKind kind))⟩
  let recorded := (Classic.throwsKind kind code).run host.recording counter (state, none)
  have h : Follows host.recording a counter (state, none) recorded :=
    follows_assertThat host.recording a .none counter (state, none)
  have hresult : (Classic.throws kind code host counter state).result =
      recorded.result.map fun _ => recorded.state.2.getD (.placeholder kind) := rfl
  refine ⟨fun e he => ?_, fun c hc => ?_, fun c compute _ hactual => nomatch hactual⟩
  · obtain ⟨herror, hcounter, hcalls, hstate⟩ := h.malformed e he
    refine ⟨?_, hcounter, hcalls, congrArg Prod.fst hstate⟩
    rw [hresult, herror]
    rfl
  · obtain ⟨hcounter, hends⟩ := h.counted c hc
    refine ⟨hcounter, fun e he => hends e ?_⟩
    rw [hresult] at he
    cases hrecorded : recorded.result with
    | ok u =>
      rw [hrecorded] at he
      cases he
    | error e' =>
      rw [hrecorded] at he
      cases he
      rfl

end Follows

/-! ## One request -/

section Moment

variable {host : Host σ} {m : Moment σ} {a : Assertion σ} {place : Place}

theorem Moment.exists_report (host : Host σ) (h : m.request.assertion? = some a) :
    ∃ (β : Type) (reply : β → Reply) (r : Report σ β), (∀ b, (reply b).isVerdict = true) ∧
      m.step host = Session.ofReport reply (m.counters.set · a.place) r ∧
      Follows host a (m.counters.at a.place) m.state r := by
  obtain ⟨⟨session, command⟩, counters, state⟩ := m
  cases command with
  | assert actual goal message =>
    cases h
    refine ⟨Unit, fun _ => .passed, _, fun _ => rfl, ?_, follows_assertThat host _ message _ _⟩
    simp only [Moment.step, Session.perform, Session.counter_eq, Session.withCounter_eq]
  | assertFreely actual goal message =>
    cases h
    exact ⟨Unit, fun _ => .passed, _, fun _ => rfl, rfl, follows_assertThat host _ message _ _⟩
  | check c =>
    cases h
    exact ⟨Unit, fun _ => .passed, _, fun _ => rfl, rfl, follows_assertThat host _ .none _ _⟩
  | checkThrows kind code =>
    cases h
    exact ⟨Fault, .fault, _, fun _ => rfl, rfl, follows_throws host kind code _ _⟩
  | _ => cases h

theorem Moment.counters_step_of_none (host : Host σ) (h : m.request.assertion? = none) :
    (m.step host).counters =
      match m.request.resets? with
      | some p => m.counters.set .zero p
      | none => m.counters := by
  obtain ⟨⟨session, command⟩, counters, state⟩ := m
  cases command with
  | assert | assertFreely | check | checkThrows => cases h
  | reset =>
    simp only [Moment.step, Session.perform, Session.withCounter_eq]
    rfl
  | _ => rfl

theorem Request.exists_assertion {r : Request σ} (h : r.counts place = true) :
    ∃ a c, r.assertion? = some a ∧ a.place = place ∧ a.goal.resolve = .ok c := by
  obtain ⟨a, hassertion, ha⟩ := Option.any_eq_true _ _ |>.mp h
  obtain ⟨hplace, hgoal⟩ := Bool.and_eq_true_iff.mp ha
  cases hresolve : a.goal.resolve with
  | ok c => exact ⟨a, c, hassertion, of_decide_eq_true hplace, hresolve⟩
  | error e =>
    rw [hresolve] at hgoal
    cases hgoal

theorem Request.resets?_eq_none {r : Request σ} (h : r.assertion? = some a) : r.resets? = none := by
  obtain ⟨session, command⟩ := r
  cases command <;> first | rfl | cases h

theorem Moment.reply_step_of_resets (host : Host σ) (h : m.request.resets? = some place) :
    (m.step host).reply = .count (m.counters.at place).count := by
  obtain ⟨⟨session, command⟩, counters, state⟩ := m
  cases command with
  | reset =>
    cases h
    simp only [Moment.step, Session.perform, Session.counter_eq]
    rfl
  | assertCount =>
    cases h
    rfl
  | _ => cases h

/-- **What a request does to a counter**: an assertion that resolves is counted, a reset sets the counter
back, and nothing else changes it. -/
theorem Moment.at_step (host : Host σ) (m : Moment σ) (place : Place) :
    (m.step host).counters.at place =
      if m.request.counts place then (m.counters.at place).increment
      else if m.request.resets? = some place then .zero
      else m.counters.at place := by
  cases hassertion : m.request.assertion? with
  | some a =>
    obtain ⟨β, reply, r, -, hstep, hfollows⟩ := Moment.exists_report host hassertion
    have hresets := Request.resets?_eq_none hassertion
    have hcounts : m.request.counts place = (decide (a.place = place) && a.goal.resolve.isOk) := by
      rw [Request.counts, hassertion]
      rfl
    have hcounters : (m.step host).counters = m.counters.set r.counter a.place := by rw [hstep]; rfl
    rw [hcounters, Counters.at_set, hcounts, hresets]
    by_cases hplace : a.place = place
    · cases hgoal : a.goal.resolve with
      | ok c => simp [hplace, (hfollows.counted c hgoal).1, Except.isOk, Except.toBool]
      | error e => simp [hplace, (hfollows.malformed e hgoal).2.1, Except.isOk, Except.toBool]
    · simp [hplace]
  | none =>
    have hcounts : m.request.counts place = false := by
      rw [Request.counts, hassertion]
      rfl
    rw [Moment.counters_step_of_none host hassertion, hcounts]
    cases hresets : m.request.resets? with
    | some p => simp [Counters.at_set]
    | none => simp

theorem Counter.toNat_increment {c : Counter} (h : c.count.toNat + 1 < UInt64.size) :
    c.increment.count.toNat = c.count.toNat + 1 := by
  rw [Counter.increment, UInt64.toNat_add]
  exact Nat.mod_eq_of_lt h

/-- The number in an answer. -/
def Reply.number : Reply → Nat
  | count n => n.toNat
  | _ => 0

/-- What the request reads from the counter in the place, if it sets it back. -/
def Moment.reading (host : Host σ) (place : Place) (m : Moment σ) : Nat :=
  if m.request.resets? = some place then (m.step host).reply.number else 0

theorem Moment.reading_add_count (host : Host σ) (m : Moment σ) (place : Place)
    (h : (m.counters.at place).count.toNat + (m.request.counts place).toNat < UInt64.size) :
    m.reading host place + ((m.step host).counters.at place).count.toNat =
      (m.counters.at place).count.toNat + (m.request.counts place).toNat := by
  rw [Moment.at_step, Moment.reading]
  cases hcounts : m.request.counts place with
  | true =>
    rw [hcounts] at h
    obtain ⟨a, -, hassertion, -⟩ := Request.exists_assertion hcounts
    rw [Request.resets?_eq_none hassertion, if_neg nofun, if_pos rfl, Counter.toNat_increment h]
    exact Nat.zero_add _
  | false =>
    by_cases hresets : m.request.resets? = some place
    · simp [hresets, m.reply_step_of_resets host hresets, Reply.number, Counter.zero]
    · simp [hresets]

/-- The request does what it should, with the counter in the place and with all else. An assertion that is
counted there raises the counter by one. A reset answers with the count and sets the counter back, and no
other request changes it, least of all a signal. -/
structure Moment.Accounted (host : Host σ) (place : Place) (m : Moment σ) : Prop where
  raised : m.request.counts place = true →
    ((m.step host).counters.at place).count.toNat = (m.counters.at place).count.toNat + 1
  read : m.request.resets? = some place →
    (m.step host).reply = .count (m.counters.at place).count ∧ (m.step host).counters.at place = .zero
  kept : m.request.counts place = false → m.request.resets? ≠ some place →
    (m.step host).counters.at place = m.counters.at place
  signal : ∀ s message, m.request.command = .raise s message → (m.step host).counters = m.counters
  /-- An assertion whose goal resolves passes, fails or cannot fill in its message. -/
  resolved : ∀ a c, m.request.assertion? = some a → a.goal.resolve = .ok c →
    (m.step host).reply.isVerdict = true
  /-- Of one whose goal does not resolve, nothing is left but the error. -/
  unresolved : ∀ a e, m.request.assertion? = some a → a.goal.resolve = .error e →
    (m.step host).reply = .ended (.malformed e) ∧ (m.step host).counters = m.counters ∧
      (m.step host).calls = [] ∧ (m.step host).state = m.state
  /-- A value that is computed on demand is computed once, from the counter that is already raised, and
  judged. -/
  computed : ∀ a c compute, m.request.assertion? = some a → a.goal.resolve = .ok c →
    a.actual = .onDemand compute →
    let value := compute ((m.step host).counters.at a.place) m.state
    let judged := (a.settings.prepare c).evaluate host value.result value.state
    (m.step host).calls = .compute :: value.calls ++ judged.calls ∧ .compute ∉ judged.calls ∧
      (m.step host).state = judged.state

/-- **A request does what it should** as long as the counter does not overflow. -/
theorem Moment.accounted (host : Host σ) (m : Moment σ) (place : Place)
    (h : (m.counters.at place).count.toNat + (m.request.counts place).toNat < UInt64.size) :
    m.Accounted host place where
  raised hcounts := by
    rw [hcounts] at h
    rw [Moment.at_step, if_pos hcounts, Counter.toNat_increment h]
  read hresets := by
    have hcounts : m.request.counts place = false := by
      cases hcounts : m.request.counts place with
      | false => rfl
      | true =>
        obtain ⟨a, -, hassertion, -⟩ := Request.exists_assertion hcounts
        rw [Request.resets?_eq_none hassertion] at hresets
        cases hresets
    refine ⟨m.reply_step_of_resets host hresets, ?_⟩
    rw [Moment.at_step, hcounts, if_pos hresets]
    rfl
  kept hcounts hresets := by
    rw [Moment.at_step, hcounts, if_neg hresets]
    rfl
  signal s message hcommand := by
    simp only [Moment.step, hcommand, Session.perform]
  resolved a c hassertion hgoal := by
    obtain ⟨β, reply, r, hreply, hstep, hfollows⟩ := Moment.exists_report host hassertion
    rw [hstep, Session.ofReport]
    cases hresult : r.result with
    | ok b => exact hreply b
    | error e => exact (hfollows.counted c hgoal).2 e hresult
  unresolved a e hassertion hgoal := by
    obtain ⟨β, reply, r, -, hstep, hfollows⟩ := Moment.exists_report host hassertion
    obtain ⟨hresult, hcounter, hcalls, hstate⟩ := hfollows.malformed e hgoal
    rw [hstep, Session.ofReport, hresult, hcounter, Counters.set_at]
    exact ⟨rfl, rfl, hcalls, hstate⟩
  computed a c compute hassertion hgoal hactual := by
    obtain ⟨β, reply, r, -, hstep, hfollows⟩ := Moment.exists_report host hassertion
    have hcounter : (m.step host).counters.at a.place = (m.counters.at a.place).increment := by
      rw [hstep, Session.ofReport, (hfollows.counted c hgoal).1, Counters.at_set, if_pos rfl]
    rw [hcounter, hstep]
    exact hfollows.computed c compute hgoal hactual

end Moment

/-! ## Series of requests -/

section Course

variable {host : Host σ} {counters : Counters} {state : σ} {place : Place}

/-- What the resets of a series have read from the counter in the place. -/
def readings (host : Host σ) (place : Place) (moments : List (Moment σ)) : Nat :=
  (moments.map (Moment.reading host place)).sum

/-- **Conservation**: what is read in a series and what remains is what was there before and the number of
assertions that are counted. On the way the counter does not overflow. -/
theorem readings_add_count (requests : List (Request σ))
    (h : (counters.at place).count.toNat + requests.countP (Request.counts place) < UInt64.size) :
    (∀ m ∈ course host counters state requests,
      (m.counters.at place).count.toNat + (m.request.counts place).toNat < UInt64.size) ∧
    readings host place (course host counters state requests) +
        ((countersAfter host counters state requests).at place).count.toNat =
      (counters.at place).count.toNat + requests.countP (Request.counts place) := by
  induction requests generalizing counters state with
  | nil => exact ⟨fun _ hm => absurd hm List.not_mem_nil, Nat.zero_add _⟩
  | cons r rest ih =>
    let m : Moment σ := ⟨r, counters, state⟩
    have hcount : (r :: rest).countP (Request.counts place) =
        (r.counts place).toNat + rest.countP (Request.counts place) := by
      rw [List.countP_cons, Nat.add_comm]
      cases r.counts place <;> rfl
    rw [hcount, ← Nat.add_assoc] at h ⊢
    have hfits : (m.counters.at place).count.toNat + (m.request.counts place).toNat < UInt64.size :=
      Nat.lt_of_le_of_lt (Nat.le_add_right _ _) h
    have hreading := m.reading_add_count host place hfits
    have hrest : ((m.step host).counters.at place).count.toNat + rest.countP (Request.counts place) <
        UInt64.size := by
      change (m.counters.at place).count.toNat + (m.request.counts place).toNat +
        rest.countP (Request.counts place) < UInt64.size at h
      omega
    obtain ⟨hfitsRest, hsum⟩ := @ih (m.step host).counters (m.step host).state hrest
    refine ⟨fun m' hm' => ?_, ?_⟩
    · rcases List.mem_cons.mp hm' with rfl | hm'
      · exact hfits
      · exact hfitsRest m' hm'
    · calc readings host place (course host counters state (r :: rest)) +
            ((countersAfter host counters state (r :: rest)).at place).count.toNat
          = m.reading host place +
              (readings host place (course host (m.step host).counters (m.step host).state rest) +
                ((countersAfter host (m.step host).counters (m.step host).state rest).at
                  place).count.toNat) := Nat.add_assoc _ _ _
        _ = m.reading host place + ((m.step host).counters.at place).count.toNat +
              rest.countP (Request.counts place) := by rw [hsum, Nat.add_assoc]
        _ = _ := by rw [hreading]

/-- **Assertions are counted once.** In a series of requests on a counter that starts at zero, with
assertions too few to overflow it, every request does what it should, and what the resets have read from
the counter and what it shows at last is the number of assertions that resolve. -/
theorem counted_once (host : Host σ) (place : Place) (counters : Counters) (state : σ)
    (requests : List (Request σ)) (hzero : counters.at place = .zero)
    (hfew : requests.countP (Request.counts place) < UInt64.size) :
    (∀ m ∈ course host counters state requests, m.Accounted host place) ∧
    readings host place (course host counters state requests) +
        ((countersAfter host counters state requests).at place).count.toNat =
      requests.countP (Request.counts place) := by
  have hstart : (counters.at place).count.toNat = 0 := by
    rw [hzero]
    rfl
  obtain ⟨hfits, hsum⟩ := @readings_add_count σ host counters state place requests (by omega)
  exact ⟨fun m hm => m.accounted host place (hfits m hm), by omega⟩

/-- Two sessions on the shared counter: a value that is true just if it sees the raised counter, a message
that cannot be filled in, an empty chain, a signal, a reset that reads two, a check that fails, one that
passes, another reset, and an assertion that remains. -/
theorem counted_once_interleaved :
    let plain : Session := ⟨.default, true⟩
    let brief : Session := ⟨⟨⟨8, 1⟩, none⟩, true⟩
    let sees : Actual Unit := .onDemand fun counter => pure (.bool (counter.count == 1))
    let isTrue : Goal := .chain (.ofWords [.isTrue])
    let requests : List (Request Unit) :=
      [⟨plain, .assert sees isTrue .none⟩,
        ⟨brief, .assert (.value .null) isTrue ⟨some "\x7bx\x7d", [.null]⟩⟩,
        ⟨plain, .assert sees (.chain .empty) .none⟩, ⟨brief, .raise .fail .none⟩, ⟨plain, .reset⟩,
        ⟨brief, .checkThrows "Refusal" ⟨0⟩⟩, ⟨plain, .check (Classic.isNull (.value .null))⟩,
        ⟨brief, .assertCount⟩, ⟨plain, .assertFreely (.value (.bool true)) isTrue .none⟩]
    let counters : Counters := ⟨.zero, .zero⟩
    let moments := course Host.silent counters () requests
    (counters.at .shared = .zero ∧ requests.countP (Request.counts .shared) < UInt64.size) ∧
    (readings Host.silent .shared moments = 4 ∧
      ((countersAfter Host.silent counters () requests).at .shared).count = 1) ∧
    (∀ m ∈ moments, m.Accounted Host.silent .shared) ∧
    readings Host.silent .shared moments + ((countersAfter Host.silent counters () requests).at .shared).count.toNat =
      requests.countP (Request.counts .shared) := by
  intro plain brief sees isTrue requests counters moments
  have hzero : counters.at .shared = .zero := rfl
  have hfew : requests.countP (Request.counts .shared) < UInt64.size := by
    have hcount : requests.countP (Request.counts .shared) = 5 := rfl
    rw [hcount]
    decide
  exact ⟨⟨hzero, hfew⟩, ⟨rfl, rfl⟩, counted_once Host.silent .shared counters () requests hzero hfew⟩

end Course

end Expectation
