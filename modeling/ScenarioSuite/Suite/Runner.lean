import ScenarioSuite.Scenario.Run

/-!
# Running suites

A runner keeps a store and a client from one scenario to the next, so that what one scenario
captures the later ones can use.

## Main definitions

* `Runner`: a client and its state, a store, and the base variable.
* `Runner.seed`, `Runner.run`.
-/

namespace ScenarioSuite

/-- What lives on from scenario to scenario. -/
structure Runner (σ : Type) where
  client : Http.Client σ
  state : σ
  store : Store
  base : String

namespace Runner

variable {σ : Type}

/-- The base variable, unless another one is named. -/
def standardBase : String := "server"

/-- A runner with a store. -/
def ofStore (client : Http.Client σ) (state : σ) (store : Store) : Runner σ :=
  ⟨client, state, store, standardBase⟩

/-- The runner with another base variable. -/
def withBase (r : Runner σ) (base : String) : Runner σ :=
  { r with base }

/-- Gives variables values in order. -/
def seed (r : Runner σ) (pairs : List (String × String)) : Runner σ :=
  { r with store := r.store.seed pairs }

/-- Runs one scenario. -/
def runOne (r : Runner σ) (s : Scenario) : Scenario.Report × Runner σ :=
  let run := s.run r.client r.base r.store r.state
  (run.report, { r with store := run.store, state := run.client })

/-- Runs scenarios in order. -/
def run (r : Runner σ) : List Scenario → List Scenario.Report × Runner σ
  | [] => ([], r)
  | s :: rest =>
    let (report, r) := r.runOne s
    let (reports, r) := r.run rest
    (report :: reports, r)

end Runner

end ScenarioSuite
