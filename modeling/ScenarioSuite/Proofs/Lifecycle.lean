import ScenarioSuite.Proofs.Exchange

/-!
# The life of a scenario

A run takes one of five courses. Which one it takes, what the report holds and whether the client
is asked depend on how far the exchange came; the last state and the outcome depend on whether a
stage has recorded a problem.

## Main definitions

* `Report.hasProblem`: whether a stage has recorded a problem.
* `Lifecycle`: what holds of a run, field by field.

## Main statements

* `Report.failedStage?_eq_find?`: the stage that failed is the first one with a problem.
* `Report.outcome_finish_eq_failed_iff`, `Report.outcome_finish_eq_passed_iff`: the outcome that is
  settled in the end.
* `run_lifecycle`: every run has the properties of `Lifecycle`.
-/

namespace ScenarioSuite.Scenario

variable {σ : Type}

/-- The stages in order. -/
def Stage.inOrder : List Stage := [.setup, .execute, .assert, .teardown]

namespace Report

/-- Whether a stage has recorded a problem. -/
def hasProblem (r : Report) : Stage → Bool
  | .setup => r.setupError.isSome
  | .execute => r.transportError.isSome
  | .assert => !r.assertionFailures.isEmpty
  | .teardown => r.teardownError.isSome

/-- No stage has recorded a problem. -/
def IsClean (r : Report) : Prop :=
  r.setupError = none ∧ r.transportError = none ∧ r.assertionFailures = [] ∧ r.teardownError = none

/-- The stage that failed is the first one with a problem. -/
theorem failedStage?_eq_find? (r : Report) : r.failedStage? = Stage.inOrder.find? r.hasProblem := by
  unfold failedStage? Stage.inOrder
  simp only [List.find?_cons, List.find?_nil, hasProblem]
  cases r.setupError <;> cases r.transportError <;> cases r.assertionFailures <;>
    cases r.teardownError <;> rfl

theorem failedStage?_eq_none_iff (r : Report) : r.failedStage? = none ↔ r.IsClean := by
  rw [failedStage?_eq_find?, IsClean]
  simp [Stage.inOrder, hasProblem]

theorem outcome_finish_eq_failed_iff (r : Report) (stage : Stage) :
    r.finish.outcome = .failed stage ↔ Stage.inOrder.find? r.finish.hasProblem = some stage := by
  have same : r.finish.hasProblem = r.hasProblem := by funext stage; cases stage <;> rfl
  rw [same, ← failedStage?_eq_find?, finish, enter]
  cases r.failedStage? <;> simp

theorem outcome_finish_eq_passed_iff (r : Report) :
    r.finish.outcome = .passed ↔ r.finish.IsClean := by
  have same : r.finish.IsClean ↔ r.IsClean := Iff.rfl
  rw [same, ← failedStage?_eq_none_iff, finish, enter]
  cases r.failedStage? <;> simp

/-- The last state says how the scenario ended. -/
theorem finalState_finish (r : Report) :
    r.finish.finalState = if r.finish.isPassed then .passed else .failed := by
  rw [finalState, finish, enter, List.getLast?_concat]
  rfl

theorem isPassed_eq_true_iff (r : Report) : r.isPassed = true ↔ r.outcome = .passed := by
  rw [isPassed]
  cases r.outcome <;> simp [Outcome.isPassed]

theorem finalState_finish_eq_passed_iff (r : Report) :
    r.finish.finalState = .passed ↔ r.finish.outcome = .passed := by
  rw [finalState_finish, ← isPassed_eq_true_iff]
  cases r.finish.isPassed <;> simp

end Report

/-! ## The courses of a run -/

/-- The courses that a run can take, as the states of the scenario. -/
def State.courses : List (List State) :=
  [[.pending, .settingUp, .failed],
   [.pending, .settingUp, .executing, .failed],
   [.pending, .settingUp, .executing, .tearingDown, .failed],
   [.pending, .settingUp, .executing, .asserting, .tearingDown, .passed],
   [.pending, .settingUp, .executing, .asserting, .tearingDown, .failed]]

section Courses

variable (s : Scenario) (store : Store)

@[simp] theorem states_report_unrendered (cause : Unbound) :
    (s.report (.unrendered cause) store).states = [.pending, .settingUp, .failed] := rfl

@[simp] theorem states_report_error (request : Http.Request) (failure : Http.Failure) :
    (s.report (.sent request (.error failure)) store).states =
      if failure.partial?.isSome then [.pending, .settingUp, .executing, .tearingDown, .failed]
      else [.pending, .settingUp, .executing, .failed] := by
  change Exchange.states (.sent request (.error failure)) ++ [.failed] = _
  simp only [Exchange.states]
  cases failure.partial? <;> rfl

@[simp] theorem states_report_ok (request : Http.Request) (response : Http.Response) :
    (s.report (.sent request (.ok response)) store).states =
      [.pending, .settingUp, .executing, .asserting, .tearingDown,
        if (s.report (.sent request (.ok response)) store).isPassed then .passed else .failed] :=
  rfl

theorem states_report_mem (e : Exchange) : (s.report e store).states ∈ State.courses := by
  rcases e with cause | ⟨request, failure | response⟩
  · simp [State.courses]
  · rw [states_report_error]
    split <;> simp [State.courses]
  · rw [states_report_ok]
    split <;> simp [State.courses]

theorem states_report_eq_unrendered_iff (e : Exchange) :
    (s.report e store).states = [.pending, .settingUp, .failed] ↔
      ∃ cause, e = .unrendered cause := by
  rcases e with cause | ⟨request, failure | response⟩
  · simp
  · rw [states_report_error]
    split <;> simp
  · simp

theorem states_report_eq_unanswered_iff (e : Exchange) :
    (s.report e store).states = [.pending, .settingUp, .executing, .failed] ↔
      ∃ request failure, e = .sent request (.error failure) ∧
        ∀ message response, failure ≠ .incomplete message response := by
  simp only [← Http.Failure.partial?_eq_none_iff]
  rcases e with cause | ⟨request, failure | response⟩
  · simp
  · rw [states_report_error]
    constructor
    · intro h
      refine ⟨request, failure, rfl, ?_⟩
      cases hpart : failure.partial? <;> simp [hpart] at h ⊢
    · rintro ⟨_, _, heq, hpart⟩
      cases heq
      simp [hpart]
  · simp

theorem states_report_eq_brokenOff_iff (e : Exchange) :
    (s.report e store).states = [.pending, .settingUp, .executing, .tearingDown, .failed] ↔
      ∃ request message response, e = .sent request (.error (.incomplete message response)) := by
  rcases e with cause | ⟨request, failure | response⟩
  · simp
  · rw [states_report_error]
    constructor
    · intro h
      cases hpart : failure.partial? with
      | none => simp [hpart] at h
      | some response =>
        obtain ⟨message, rfl⟩ := Http.Failure.partial?_eq_some_iff.1 hpart
        exact ⟨request, message, response, rfl⟩
    · rintro ⟨_, message, response, heq⟩
      cases heq
      simp [Http.Failure.partial?]
  · simp

end Courses

/-- What holds of the run of a scenario. -/
structure Lifecycle (client : Http.Client σ) (base : String) (s : Scenario) (store : Store)
    (state : σ) (run : Run σ) : Prop where
  /-- The states are those of one of five courses. -/
  states_mem : run.report.states ∈ State.courses
  /-- The first course is taken if the request cannot be rendered. -/
  unrendered : run.report.states = [.pending, .settingUp, .failed] ↔
    ∃ cause, s.request.render store base = .error cause
  /-- The second course is taken if no part of a response arrives. -/
  unanswered : run.report.states = [.pending, .settingUp, .executing, .failed] ↔
    ∃ request failure, s.request.render store base = .ok request ∧
      (client.send state request).1 = .error failure ∧
        ∀ message response, failure ≠ .incomplete message response
  /-- The third course is taken if the response breaks off. -/
  brokenOff : run.report.states = [.pending, .settingUp, .executing, .tearingDown, .failed] ↔
    ∃ request message response, s.request.render store base = .ok request ∧
      (client.send state request).1 = .error (.incomplete message response)
  /-- The client is sent the rendered request once, or nothing if there is none. A client that
  keeps what it was sent is treated as the client itself. -/
  sent : ∀ earlier : List Http.Request,
    s.run client.recording base store (state, earlier) =
      ⟨run.report, run.store, run.client,
        match s.request.render store base with
        | .error _ => earlier
        | .ok request => request :: earlier⟩
  /-- The last state and the outcome agree. -/
  outcome_passed : run.report.outcome = .passed ↔ run.report.finalState = .passed
  /-- A scenario passes if no stage has recorded a problem. -/
  clean : run.report.finalState = .passed ↔ run.report.IsClean
  /-- It fails in the first stage that has recorded one. -/
  outcome_failed : ∀ stage, run.report.outcome = .failed stage ↔
    Stage.inOrder.find? run.report.hasProblem = some stage
  /-- Setup records why there is no request. -/
  setupError : ∀ cause, run.report.setupError = some cause ↔
    s.request.render store base = .error cause
  /-- Execution records why there is no complete response. -/
  transportError : ∀ failure, run.report.transportError = some failure ↔
    ∃ request, s.request.render store base = .ok request ∧
      (client.send state request).1 = .error failure
  /-- Every check is made on a complete response, and those that fail are recorded in order. -/
  checked : ∀ request response, s.request.render store base = .ok request →
    (client.send state request).1 = .ok response →
      run.report.assertionsRun = s.assertions.length ∧
      run.report.assertionFailures = s.assertions.filterMap (·.check response)
  /-- No check is made without one. -/
  unchecked : (¬ ∃ request response, s.request.render store base = .ok request ∧
    (client.send state request).1 = .ok response) →
      run.report.assertionsRun = 0 ∧ run.report.assertionFailures = []
  /-- The teardown is carried out on a response, complete or broken off. -/
  tornDown : ∀ response, s.request.Receives client base store state response →
    run.report.status = some response.status ∧
      (run.store, run.report.teardownError) = s.teardown.run response store
  /-- Nothing else changes the store. -/
  untouched : (¬ ∃ response, s.request.Receives client base store state response) →
    run.report.status = none ∧ run.report.teardownError = none ∧ run.store = store

/-- Every run of a scenario has the properties of a lifecycle. -/
theorem run_lifecycle (client : Http.Client σ) (base : String) (s : Scenario) (store : Store)
    (state : σ) : Lifecycle client base s store state (s.run client base store state) := by
  have received := s.request.response?_exchange_eq_some_iff client base store state
  have unrendered := s.request.exchange_eq_unrendered_iff client base store state
  have sent := s.request.exchange_eq_sent_iff client base store state
  have recorded := s.request.exchange_recording client base store state
  rw [run_eq]
  -- From here on only the exchange and what is known of it count.
  generalize s.request.exchange client base store state = exchange
    at received unrendered sent recorded
  obtain ⟨e, state'⟩ := exchange
  dsimp only at received unrendered sent recorded ⊢
  constructor
  case states_mem => exact s.states_report_mem store e
  case unrendered => simp only [states_report_eq_unrendered_iff, unrendered]
  case unanswered => simp only [states_report_eq_unanswered_iff, sent, and_assoc]
  case brokenOff => simp only [states_report_eq_brokenOff_iff, sent]
  case sent =>
    intro earlier
    rw [run_eq, recorded]
    cases e with
    | unrendered cause => rw [(unrendered cause).1 rfl]; rfl
    | sent request reply => rw [((sent request reply).1 rfl).1]; rfl
  case outcome_passed => exact (Report.finalState_finish_eq_passed_iff _).symm
  case clean =>
    exact (Report.finalState_finish_eq_passed_iff _).trans (Report.outcome_finish_eq_passed_iff _)
  case outcome_failed => exact Report.outcome_finish_eq_failed_iff _
  case setupError => exact fun cause => Exchange.unbound?_eq_some_iff.trans (unrendered cause)
  case transportError =>
    intro failure
    refine Exchange.failure?_eq_some_iff.trans (exists_congr fun request => ?_)
    exact sent request (.error failure)
  case checked =>
    intro request response hrender hsend
    obtain rfl := (sent request (.ok response)).2 ⟨hrender, hsend⟩
    exact ⟨rfl, rfl⟩
  case unchecked =>
    intro unanswered
    have noAnswer : e.answer? = none := by
      refine Option.eq_none_iff_forall_ne_some.2 fun response hresponse => unanswered ?_
      obtain ⟨request, h⟩ := Exchange.answer?_eq_some_iff.1 hresponse
      exact ⟨request, response, (sent request (.ok response)).1 h⟩
    simp [report, failures, noAnswer, Report.finish, Report.enter]
  case tornDown =>
    intro response h
    have hresponse := (received response).2 h
    simp [report, Teardown.after, hresponse, Report.finish, Report.enter]
  case untouched =>
    intro h
    have noResponse : e.response? = none :=
      Option.eq_none_iff_forall_ne_some.2 fun response hresponse =>
        h ⟨response, (received response).1 hresponse⟩
    simp [report, Teardown.after, noResponse, Report.finish, Report.enter]

end ScenarioSuite.Scenario
