import ScenarioSuite.CommandLine.Help
import ScenarioSuite.CommandLine.Plan
import ScenarioSuite.Suite.Report

/-!
# Output of the program

## Main definitions

* `Outcome`, `execute`: what a command line leads to.
* `Output`, `Outcome.output`: the two output texts and the exit status. The status is 0 when every
  scenario passed, 1 when one failed, and 2 when nothing was run.
-/

namespace ScenarioSuite.CommandLine

/-- What a command line leads to. -/
inductive Outcome where
  | refused (reason : Refusal)
  | failed (cause : LoadError)
  | listed (paths : List Path)
  | finished (reports : List Scenario.Report) (asJson : Bool)

/-- Does what is asked for. -/
def Invocation.execute {σ : Type} (fs : FileSystem) (client : Http.Client σ) (state : σ) :
    Invocation → Outcome × σ
  | .run arguments =>
    match arguments.perform fs client state with
    | (.error cause, state) => (.failed cause, state)
    | (.ok reports, state) => (.finished reports arguments.asJson, state)
  | .list directory configFile =>
    match listFiles fs directory configFile with
    | .error cause => (.failed cause, state)
    | .ok paths => (.listed paths, state)

/-- Does what a command line asks for. -/
def execute {σ : Type} (fs : FileSystem) (client : Http.Client σ) (state : σ)
    (arguments : List String) : Outcome × σ :=
  match Invocation.parse arguments with
  | .error reason => (.refused reason, state)
  | .ok invocation => invocation.execute fs client state

/-- What the program leaves behind. -/
structure Output where
  status : Nat
  out : String
  err : String
deriving Repr, DecidableEq

/-- The output for a command line that asks for nothing that can be done. -/
def Refusal.output : Refusal → Output
  | .empty => ⟨2, "", program.help⟩
  | .stopped (.help command) => ⟨0, command.help, ""⟩
  | .stopped .version => ⟨0, programName ++ " " ++ Config.version ++ "\n", ""⟩
  | .stopped (.misuse reason command) =>
    ⟨2, "", "error: " ++ reason.message ++ "\n\n" ++ command.usage ++
      "\n\nFor more information, try '--help'.\n"⟩

/-- The output, for a run between two instants, in colours or without. -/
def Outcome.output (startedAt finishedAt : Instant) (colored : Bool) : Outcome → Output
  | .refused reason => reason.output
  | .failed cause =>
    ⟨2, "", Suite.Look.boldRed.paint colored "Error:" ++ " " ++ cause.message ++ "\n"⟩
  | .listed paths => ⟨0, String.join (paths.map (Path.display · ++ "\n")), ""⟩
  | .finished reports asJson =>
    let report : Suite.Report := ⟨reports, startedAt, finishedAt⟩
    ⟨if report.isSuccess then 0 else 1,
      if asJson then report.toJson.renderIndented ++ "\n" else report.render colored, ""⟩

end ScenarioSuite.CommandLine
