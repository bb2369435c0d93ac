import ScenarioSuite.Http.Client
import ScenarioSuite.Scenario.Assertion
import ScenarioSuite.Scenario.Teardown

/-!
# Reports of scenarios

A report holds the states a scenario went through and everything that went wrong. The stage that
failed is the earliest one with an error; it is settled when the report is finished.

## Main definitions

* `State`, `Stage`, `Outcome`.
* `Report`: what happened to a scenario.
* `Report.enter`, `Report.check`, `Report.checkAll`: what is added to a report during a run.
* `Report.failedStage?`, `Report.finish`.
-/

namespace ScenarioSuite.Scenario

/-- A state of a scenario. -/
inductive State where
  | pending
  | settingUp
  | executing
  | asserting
  | tearingDown
  | passed
  | failed
deriving Repr, DecidableEq

namespace State

/-- The name of a state. -/
def name : State → String
  | .pending => "pending"
  | .settingUp => "settingUp"
  | .executing => "executing"
  | .asserting => "asserting"
  | .tearingDown => "tearingDown"
  | .passed => "passed"
  | .failed => "failed"

/-- Whether a scenario in this state is over. -/
def isTerminal : State → Bool
  | .passed | .failed => true
  | _ => false

end State

/-- A part of a scenario that can fail. -/
inductive Stage where
  | setup
  | execute
  | assert
  | teardown
deriving Repr, DecidableEq

/-- The name of a stage. -/
def Stage.name : Stage → String
  | .setup => "setup"
  | .execute => "execute"
  | .assert => "assert"
  | .teardown => "teardown"

/-- How a scenario ended. -/
inductive Outcome where
  | passed
  | failed (stage : Stage)
deriving Repr, DecidableEq

namespace Outcome

/-- Whether the scenario passed. -/
def isPassed : Outcome → Bool
  | .passed => true
  | .failed _ => false

/-- The outcome in JSON. -/
def toJson : Outcome → Json
  | .passed => .string "passed"
  | .failed stage => .object [("failed", .string stage.name)]

end Outcome

/-- What happened to a scenario. -/
structure Report where
  name : String
  outcome : Outcome
  states : List State
  setupError : Option Unbound
  transportError : Option Http.Failure
  assertionFailures : List AssertionFailure
  assertionsRun : Nat
  teardownError : Option TeardownError
  status : Option Nat
deriving DecidableEq

namespace Report

/-- The report of a scenario that has not begun. -/
def start (name : String) : Report where
  name
  outcome := .passed
  states := [.pending]
  setupError := none
  transportError := none
  assertionFailures := []
  assertionsRun := 0
  teardownError := none
  status := none

/-- The report with one more state. -/
def enter (r : Report) (state : State) : Report :=
  { r with states := r.states ++ [state] }

/-- The report with one more check on the response. -/
def check (r : Report) (response : Http.Response) (a : Assertion) : Report :=
  let r := { r with assertionsRun := r.assertionsRun + 1 }
  match a.check response with
  | none => r
  | some failure => { r with assertionFailures := r.assertionFailures ++ [failure] }

/-- The report after checks on the response, one after the other. -/
def checkAll (r : Report) (response : Http.Response) (assertions : List Assertion) : Report :=
  assertions.foldl (fun r a => r.check response a) r

/-- The earliest stage with an error. -/
def failedStage? (r : Report) : Option Stage :=
  if r.setupError.isSome then some .setup
  else if r.transportError.isSome then some .execute
  else if !r.assertionFailures.isEmpty then some .assert
  else if r.teardownError.isSome then some .teardown
  else none

/-- Whether the scenario passed. -/
def isPassed (r : Report) : Bool :=
  r.outcome.isPassed

/-- Settles the outcome and enters the last state. -/
def finish (r : Report) : Report :=
  let outcome := match r.failedStage? with
    | none => Outcome.passed
    | some stage => .failed stage
  { r with outcome }.enter (if outcome.isPassed then .passed else .failed)

/-- The last state. -/
def finalState (r : Report) : State :=
  r.states.getLast?.getD .pending

/-- The report in JSON. -/
def toJson (r : Report) : Json :=
  .object
    [("name", .string r.name),
     ("outcome", r.outcome.toJson),
     ("states", .array (r.states.map fun state => .string state.name)),
     ("setupError", .ofString? (r.setupError.map (·.message))),
     ("transportError", .ofString? (r.transportError.map (·.message))),
     ("assertionFailures", .array (r.assertionFailures.map (·.toJson))),
     ("assertionsRun", .ofNat r.assertionsRun),
     ("teardownError", .ofString? (r.teardownError.map (·.message))),
     ("status", match r.status with
       | some status => .ofNat status
       | none => .null)]

end Report

end ScenarioSuite.Scenario
