import ScenarioSuite.Scenario.Run

/-!
# A run as an exchange and what follows from it

What a scenario does with the client ends with the exchange: rendering the request and sending it.
The exchange depends on the template of the request alone. The checks, the teardown and the report
follow from the exchange, the scenario and the store, without the client.

## Main definitions

* `Exchange`: what comes of a request.
* `RequestTemplate.exchange`: renders a request and sends it.
* `Teardown.after`, `report`: the store and the report that follow from an exchange.

## Main statements

* `Report.check_eq`, `Report.checkAll_eq`: what one check and what all checks add to a report.
* `run_eq`: a run is an exchange and what follows from it.
* `RequestTemplate.exchange_recording`: the client is sent the rendered request once, or nothing.
-/

namespace ScenarioSuite.Scenario

variable {σ : Type}

/-- What comes of a request. -/
inductive Exchange where
  /-- There was no request to send. -/
  | unrendered (cause : Unbound)
  /-- The request was sent. -/
  | sent (request : Http.Request) (reply : Except Http.Failure Http.Response)

namespace Exchange

/-- The request, if it was sent. -/
def request? : Exchange → Option Http.Request
  | .unrendered _ => none
  | .sent request _ => some request

/-- The variable that the request could not be rendered without. -/
def unbound? : Exchange → Option Unbound
  | .unrendered cause => some cause
  | .sent _ _ => none

/-- Why there is no complete response. -/
def failure? : Exchange → Option Http.Failure
  | .sent _ (.error failure) => some failure
  | _ => none

/-- The complete response. -/
def answer? : Exchange → Option Http.Response
  | .sent _ (.ok response) => some response
  | _ => none

/-- The response, complete or broken off. -/
def response? : Exchange → Option Http.Response
  | .unrendered _ => none
  | .sent _ (.ok response) => some response
  | .sent _ (.error failure) => failure.partial?

/-- The states of a scenario up to its last one. -/
def states : Exchange → List State
  | .unrendered _ => [.pending, .settingUp]
  | .sent _ (.ok _) => [.pending, .settingUp, .executing, .asserting, .tearingDown]
  | .sent _ (.error failure) =>
    match failure.partial? with
    | none => [.pending, .settingUp, .executing]
    | some _ => [.pending, .settingUp, .executing, .tearingDown]

theorem unbound?_eq_some_iff {e : Exchange} {cause : Unbound} :
    e.unbound? = some cause ↔ e = .unrendered cause := by
  cases e <;> simp [unbound?]

theorem failure?_eq_some_iff {e : Exchange} {failure : Http.Failure} :
    e.failure? = some failure ↔ ∃ request, e = .sent request (.error failure) := by
  rcases e with cause | ⟨request, failure' | response⟩ <;> simp [failure?]

theorem answer?_eq_some_iff {e : Exchange} {response : Http.Response} :
    e.answer? = some response ↔ ∃ request, e = .sent request (.ok response) := by
  rcases e with cause | ⟨request, failure | response'⟩ <;> simp [answer?]

end Exchange

namespace RequestTemplate

/-- Renders a request and sends it. -/
@[irreducible]
def exchange (client : Http.Client σ) (base : String) (t : RequestTemplate) (store : Store)
    (state : σ) : Exchange × σ :=
  match t.render store base with
  | .error cause => (.unrendered cause, state)
  | .ok request => (.sent request (client.send state request).1, (client.send state request).2)

variable (client : Http.Client σ) (base : String) (t : RequestTemplate) (store : Store) (state : σ)

theorem exchange_eq_unrendered_iff (cause : Unbound) :
    (t.exchange client base store state).1 = .unrendered cause ↔
      t.render store base = .error cause := by
  unfold exchange
  cases t.render store base <;> simp

theorem exchange_eq_sent_iff (request : Http.Request)
    (reply : Except Http.Failure Http.Response) :
    (t.exchange client base store state).1 = .sent request reply ↔
      t.render store base = .ok request ∧ (client.send state request).1 = reply := by
  unfold exchange
  cases t.render store base with
  | error cause => simp
  | ok sent =>
    rw [Exchange.sent.injEq, Except.ok.injEq]
    exact and_congr_right fun h => h ▸ Iff.rfl

/-- The response arrives, complete or broken off. -/
def Receives (response : Http.Response) : Prop :=
  ∃ request, t.render store base = .ok request ∧
    ((client.send state request).1 = .ok response ∨
      ∃ message, (client.send state request).1 = .error (.incomplete message response))

theorem response?_exchange_eq_some_iff (response : Http.Response) :
    (t.exchange client base store state).1.response? = some response ↔
      t.Receives client base store state response := by
  unfold exchange Receives
  cases t.render store base with
  | error cause => simp [Exchange.response?]
  | ok request =>
    cases h : (client.send state request).1 <;>
      simp [Exchange.response?, Http.Failure.partial?_eq_some_iff, h]

/-- A client that keeps what it was sent is sent the request once, or nothing if there is none. -/
theorem exchange_recording (sent : List Http.Request) :
    t.exchange client.recording base store (state, sent) =
      let (e, state') := t.exchange client base store state
      (e, state', e.request?.toList ++ sent) := by
  unfold exchange
  cases t.render store base <;> rfl

end RequestTemplate

/-- The store and the error after a teardown on the response of an exchange, if there is one. -/
def Teardown.after (teardown : Teardown) (e : Exchange) (store : Store) : TeardownResult :=
  match e.response? with
  | .none => (store, .none)
  | .some response => teardown.run response store

/-- The failures of the checks that are made after an exchange. -/
def failures (s : Scenario) (e : Exchange) : List AssertionFailure :=
  match e.answer? with
  | none => []
  | some response => s.assertions.filterMap (·.check response)

/-- The report that follows from an exchange. -/
def report (s : Scenario) (e : Exchange) (store : Store) : Report :=
  Report.finish
    { name := s.name
      outcome := .passed
      states := e.states
      setupError := e.unbound?
      transportError := e.failure?
      assertionFailures := s.failures e
      assertionsRun := if e.answer?.isSome then s.assertions.length else 0
      teardownError := (s.teardown.after e store).2
      status := e.response?.map (·.status) }

section Fields

variable (s : Scenario) (e : Exchange) (store : Store)

@[simp] theorem setupError_report : (s.report e store).setupError = e.unbound? := rfl

@[simp] theorem teardownError_report :
    (s.report e store).teardownError = (s.teardown.after e store).2 := rfl

end Fields

/-! ## Checks -/

namespace Report

/-- A check is counted, and its failure is put behind the ones before it. -/
theorem check_eq (r : Report) (response : Http.Response) (a : Assertion) :
    r.check response a =
      { r with
        assertionsRun := r.assertionsRun + 1
        assertionFailures := r.assertionFailures ++ (a.check response).toList } := by
  unfold check
  cases a.check response <;> simp

/-- All checks are counted, and the failures stand in the order of the checks. -/
theorem checkAll_eq (r : Report) (response : Http.Response) (assertions : List Assertion) :
    r.checkAll response assertions =
      { r with
        assertionsRun := r.assertionsRun + assertions.length
        assertionFailures := r.assertionFailures ++ assertions.filterMap (·.check response) } := by
  unfold checkAll
  induction assertions generalizing r with
  | nil => simp
  | cons a rest ih =>
    rw [List.foldl_cons, ih, check_eq]
    have order : (a :: rest).filterMap (·.check response) =
        (a.check response).toList ++ rest.filterMap (·.check response) := by
      rw [List.filterMap_cons]
      cases a.check response <;> rfl
    simp only [List.append_assoc, order, List.length_cons, Nat.add_assoc, Nat.add_comm 1]

end Report

/-- A run is an exchange and what follows from it. -/
theorem run_eq (client : Http.Client σ) (base : String) (s : Scenario) (store : Store) (state : σ) :
    s.run client base store state =
      let (e, state') := s.request.exchange client base store state
      ⟨s.report e store, (s.teardown.after e store).1, state'⟩ := by
  unfold run RequestTemplate.exchange
  cases s.request.render store base with
  | error cause => rfl
  | ok request =>
    dsimp only
    rcases client.send state request with ⟨failure | response, state'⟩
    · simp only [report, failures, Teardown.after, Exchange.response?, Exchange.states]
      cases failure.partial? <;> rfl
    · dsimp only
      rw [Report.checkAll_eq]
      simp only [report, failures, Exchange.answer?, Report.enter, Report.start, Nat.zero_add,
        List.nil_append]
      rfl

end ScenarioSuite.Scenario
