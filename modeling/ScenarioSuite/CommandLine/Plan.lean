import ScenarioSuite.CommandLine.Invocation
import ScenarioSuite.Environment.File
import ScenarioSuite.Http.Target
import ScenarioSuite.Suite.Load
import ScenarioSuite.Suite.Runner

/-!
# Plans of runs

Everything that a run needs is loaded before the first request is sent: the settings, the
environments, the selected one of them, and the scenarios. The first that cannot be loaded stops
the run.

## Main definitions

* `LoadError`: what could not be loaded.
* `ignoredNames`: the files of a suite's directory that are no scenarios.
* `Plan`, `RunArguments.plan`: what a run needs.
* `RunArguments.perform`: loads and runs.
* `listFiles`: the scenario files of a suite.
-/

namespace ScenarioSuite.CommandLine

/-- What could not be loaded. -/
inductive LoadError where
  | config (cause : ConfigError)
  | environment (cause : EnvironmentError)
  | suite (cause : Suite.Error)

/-- The error in words. -/
def LoadError.message : LoadError → String
  | .config cause => cause.message
  | .environment cause => cause.message
  | .suite cause => cause.message

/-- The settings of a file, or the standard ones. -/
def loadConfig (fs : FileSystem) (path : Option Path) : Except LoadError Config :=
  match path with
  | none => .ok .standard
  | some path =>
    match Config.loadFile fs path with
    | .error e => .error (.config e)
    | .ok config => .ok config

/-- The names of files that are no scenarios: those of environment files. -/
def ignoredNames (config : Config) (environmentFile : Option Path) : List String :=
  match (environmentFile.bind Path.fileName?).map Path.display with
  | some name =>
    if name = config.environmentFile then [config.environmentFile]
    else [config.environmentFile, name]
  | none => [config.environmentFile]

/-- The environments of a file, or of the one that is found from the directory of the suite. -/
def loadEnvironments (fs : FileSystem) (config : Config) (directory : Path)
    (environmentFile : Option Path) : Except LoadError Environments :=
  let result := match environmentFile with
    | some path => Environments.load fs path
    | none => Environments.discover fs directory config.environmentFile
  match result with
  | .error e => .error (.environment e)
  | .ok es => .ok es

/-- The variables of the selected environment. -/
def selectSeeds (es : Environments) (selected : Option String) : Except LoadError (Dict String) :=
  match es.seeds? selected with
  | some seeds => .ok seeds
  | none => .error (.environment (.unknownEnvironment (selected.getD "")))

/-- The scenarios of a directory. -/
def loadSuite (fs : FileSystem) (directory : Path) (ignored : List String) :
    Except LoadError (List Scenario) :=
  match Suite.load fs directory ignored with
  | .error e => .error (.suite e)
  | .ok scenarios => .ok scenarios

/-- What a run needs. -/
structure Plan where
  base : String
  /-- The variables that are bound at first; later ones win. -/
  seeds : List (String × String)
  scenarios : List Scenario

/-- Loads what a run needs. -/
def RunArguments.plan (fs : FileSystem) (a : RunArguments) : Except LoadError Plan := do
  let config ← loadConfig fs a.configFile
  let environments ← loadEnvironments fs config a.directory a.environmentFile
  let seeds ← selectSeeds environments (a.environment.or config.environment)
  let scenarios ← loadSuite fs a.directory (ignoredNames config a.environmentFile)
  let server := a.server.toList.map fun url => (config.baseUrlVariable, url)
  return ⟨config.baseUrlVariable, seeds.entries ++ server ++ a.assignments, scenarios⟩

variable {σ : Type}

/-- The runner that a plan begins with. -/
def Plan.runner (p : Plan) (client : Http.Client σ) (state : σ) : Runner σ :=
  ((Runner.ofStore client state .empty).withBase p.base).seed p.seeds

/-- Loads what a run needs and runs the scenarios. -/
def RunArguments.perform (fs : FileSystem) (a : RunArguments) (client : Http.Client σ) (state : σ) :
    Except LoadError (List Scenario.Report) × σ :=
  match a.plan fs with
  | .error e => (.error e, state)
  | .ok plan =>
    let (reports, runner) := (plan.runner client state).run plan.scenarios
    (.ok reports, runner.state)

/-- The paths of the scenario files of a directory, in the order of running. -/
def listFiles (fs : FileSystem) (directory : Path) (configFile : Option Path) :
    Except LoadError (List Path) := do
  let config ← loadConfig fs configFile
  match Suite.discover fs directory (ignoredNames config none) with
  | .error e => .error (.suite e)
  | .ok found => return found.map (·.path directory)

end ScenarioSuite.CommandLine
