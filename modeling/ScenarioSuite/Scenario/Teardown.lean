import ScenarioSuite.Capture.Directive
import ScenarioSuite.Capture.Extraction
import ScenarioSuite.Store

/-!
# Teardown

After its checks a scenario may write variables from the response. Captures are carried out in
order up to the first that finds nothing; what the ones before it wrote stays.

## Main definitions

* `Teardown`: nothing, captures, or an action of its own.
* `Teardown.run`: the store afterwards, and the error.
-/

namespace ScenarioSuite.Scenario

open Capture (Directive ExtractionError extract)

/-- Why a variable could not be written. -/
inductive TeardownError where
  /-- The response has no such field. -/
  | missingField (variableName path : String)
  /-- The response has no such value for another cause. -/
  | extraction (variableName : String) (cause : ExtractionError)
  /-- The body is not what the action wants. -/
  | badBody (message : String)
  /-- A variable to be read has no value. -/
  | unbound (cause : Unbound)
deriving Repr, DecidableEq

namespace TeardownError

/-- The error in words. -/
def message : TeardownError → String
  | .missingField variableName path =>
    "cannot set '" ++ variableName ++ "': field '" ++ path ++ "' missing from response"
  | .extraction variableName cause => "cannot set '" ++ variableName ++ "': " ++ cause.message
  | .badBody message => "unexpected response body: " ++ message
  | .unbound cause => cause.message

/-- The error of a capture. -/
def ofExtraction (variableName : String) : ExtractionError → TeardownError
  | .missingField path => .missingField variableName path
  | cause => .extraction variableName cause

end TeardownError

/-- What a teardown leaves: the store, and the error if there was one. -/
abbrev TeardownResult := Store × Option TeardownError

/-- What a scenario does with a response in the end. -/
inductive Teardown where
  | none
  | captures (directives : List Directive)
  | action (run : Http.Response → Store → TeardownResult)

namespace Teardown

/-- Carries out captures in order up to the first that finds nothing. -/
def capture (response : Http.Response) : List Directive → Store → TeardownResult
  | [], store => (store, Option.none)
  | d :: rest, store =>
    match extract response d.selector with
    | .error cause => (store, some (.ofExtraction d.variableName cause))
    | .ok value => capture response rest (store.set d.variableName value)

/-- Carries out a teardown. -/
def run (teardown : Teardown) (response : Http.Response) (store : Store) : TeardownResult :=
  match teardown with
  | .none => (store, Option.none)
  | .captures directives => capture response directives store
  | .action act => act response store

/-- Whether there is nothing to do. -/
def isNone : Teardown → Bool
  | .none => true
  | _ => false

/-- The teardown with its parts, for inspection. -/
def inspect : Teardown → String
  | .none => "None"
  | .captures directives =>
    "Captures([" ++ ", ".intercalate (directives.map Directive.inspect) ++ "])"
  | .action _ => "Custom(..)"

end Teardown

end ScenarioSuite.Scenario
