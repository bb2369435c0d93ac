import ScenarioSuite.Scenario.Report
import ScenarioSuite.Scenario.Template

/-!
# Running a scenario

A scenario renders its request, sends it, checks the response, and tears down. All its checks are
made, and whatever they say the teardown is carried out; it is also carried out on a response that
broke off.

## Main definitions

* `Scenario`: a request, assertions and a teardown under a name.
* `Scenario.run`: the report, the store and the client afterwards.
-/

namespace ScenarioSuite

/-- A request, assertions on the response, and a teardown. -/
structure Scenario where
  name : String
  request : Scenario.RequestTemplate
  assertions : List Scenario.Assertion
  teardown : Scenario.Teardown

namespace Scenario

/-- A scenario with nothing but a request. -/
def ofRequest (name : String) (request : RequestTemplate) : Scenario :=
  ⟨name, request, [], .none⟩

/-- What a run leaves: the report, the store, and the state of the client. -/
structure Run (σ : Type) where
  report : Report
  store : Store
  client : σ

variable {σ : Type}

/-- Carries out the teardown on a response. -/
def tearDown (s : Scenario) (response : Http.Response) (report : Report) (store : Store) :
    Report × Store :=
  let (store, error) := s.teardown.run response store
  ({ report.enter .tearingDown with teardownError := error }, store)

/-- Runs a scenario with a client, from a store and a state of the client. -/
def run (client : Http.Client σ) (base : String) (s : Scenario) (store : Store) (state : σ) :
    Run σ :=
  let report := (Report.start s.name).enter .settingUp
  match s.request.render store base with
  | .error e => ⟨{ report with setupError := some e }.finish, store, state⟩
  | .ok request =>
    let report := report.enter .executing
    match client.send state request with
    | (.error failure, state) =>
      let (report, store) :=
        match failure.partial? with
        | none => (report, store)
        | some response =>
          s.tearDown response { report with status := some response.status } store
      ⟨{ report with transportError := some failure }.finish, store, state⟩
    | (.ok response, state) =>
      let report := { report with status := some response.status }.enter .asserting
      let report := report.checkAll response s.assertions
      let (report, store) := s.tearDown response report store
      ⟨report.finish, store, state⟩

end Scenario

end ScenarioSuite
