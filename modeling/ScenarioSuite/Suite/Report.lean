import ScenarioSuite.Instant
import ScenarioSuite.Scenario.Report

/-!
# Reports of suites

The report of a suite holds the reports of its scenarios in the order in which they ran. It is
written as JSON, or as a text for a terminal with a line for each scenario and each error.

## Main definitions

* `Suite.Report`, `Suite.Report.isSuccess`.
* `Suite.Report.toJson`, `Suite.Report.render`.
-/

namespace ScenarioSuite.Suite

/-- The reports of the scenarios, and when the run began and ended. -/
structure Report where
  scenarios : List Scenario.Report
  startedAt : Instant
  finishedAt : Instant

/-- How a text looks on a terminal. -/
inductive Look where
  | green
  | red
  | dimmed
  | boldGreen
  | boldRed
deriving Repr, DecidableEq

/-- The codes of a look. -/
def Look.codes : Look → String
  | .green => "32"
  | .red => "31"
  | .dimmed => "2"
  | .boldGreen => "1;32"
  | .boldRed => "1;31"

/-- The text in a look, if the terminal has colours. -/
def Look.paint (colored : Bool) (look : Look) (text : String) : String :=
  if colored then "\x1b[" ++ look.codes ++ "m" ++ text ++ "\x1b[0m" else text

/-- A line below the one of its scenario. -/
def detail (stage : Scenario.Stage) (message : String) : String :=
  "      " ++ stage.name ++ ": " ++ message ++ "\n"

/-- The errors of a scenario, each on a line. -/
def details (r : Scenario.Report) : List String :=
  r.setupError.toList.map (fun e => detail .setup e.message) ++
    r.transportError.toList.map (fun e => detail .execute e.message) ++
    r.assertionFailures.map (fun f => detail .assert f.message) ++
    r.teardownError.toList.map (fun e => detail .teardown e.message)

/-- The lines of a scenario. -/
def renderScenario (colored : Bool) (r : Scenario.Report) : String :=
  match r.outcome with
  | .passed => "  " ++ Look.green.paint colored "✓" ++ " " ++ r.name ++ "\n"
  | .failed stage =>
    "  " ++ Look.red.paint colored "✗" ++ " " ++ r.name ++ " " ++
      Look.dimmed.paint colored ("(failed at " ++ stage.name ++ ")") ++ "\n" ++
      String.join (details r)

namespace Report

/-- Whether every scenario passed. -/
def isSuccess (r : Report) : Bool :=
  r.scenarios.all (·.isPassed)

/-- The number of scenarios that passed. -/
def passedCount (r : Report) : Nat :=
  (r.scenarios.filter (·.isPassed)).length

/-- The number of scenarios that failed. -/
def failedCount (r : Report) : Nat :=
  r.scenarios.length - r.passedCount

/-- The first report of a name. -/
def get? (r : Report) (name : String) : Option Scenario.Report :=
  r.scenarios.find? (·.name == name)

/-- The time that the run took, in milliseconds. -/
def elapsed (r : Report) : Int :=
  r.finishedAt.since r.startedAt

/-- The report in JSON. -/
def toJson (r : Report) : Json :=
  .object
    [("scenarios", .array (r.scenarios.map (·.toJson))),
     ("startedAt", .string r.startedAt.text), ("finishedAt", .string r.finishedAt.text)]

/-- The last line. -/
def summary (r : Report) : String :=
  toString r.passedCount ++ " passed, " ++ toString r.failedCount ++ " failed (" ++
    toString r.elapsed ++ " ms)"

/-- The report for a terminal, in colours or without. -/
def render (r : Report) (colored : Bool) : String :=
  String.join (r.scenarios.map (renderScenario colored)) ++ "\n" ++
    (if r.isSuccess then Look.boldGreen else .boldRed).paint colored r.summary ++ "\n"

end Report

end ScenarioSuite.Suite
