import ScenarioSuite.CommandLine.Output
import ScenarioSuite.Proofs.EnvironmentFiles
import ScenarioSuite.Proofs.EnvironmentFormat
import ScenarioSuite.Proofs.Lifecycle
import ScenarioSuite.Proofs.Sequence

/-!
# What a run loads

A run loads its settings, its environments, the variables of the selected one, and its scenarios, in
this order. What is missing or broken first ends the run before the client is asked for anything.
If nothing is, the scenarios run in the order in which their files are discovered, and the exit
status tells whether one of them has recorded a problem.

## Main definitions

* `Loads`: everything that a run needs is there.
* `FirstFault`: the first thing that is not.

## Main statements

* `plan_eq_ok_iff`, `plan_eq_error_iff`: planning finds the one or the other.
* `execute_run`: what comes of a run in both cases.
-/

namespace ScenarioSuite

/-! ## The active environment of a file -/

namespace Environments

/-- The environments of a file are those of the JSON that it holds. -/
theorem exists_json_of_load {fs : FileSystem} {path : Path} {es : Environments}
    (h : load fs path = .ok es) : ∃ json, ofFileJson json = .ok es := by
  obtain ⟨-, _, json, -, -, hes⟩ := load_eq_ok_iff.1 h
  exact ⟨json, hes⟩

theorem has_of_ofFileJson {json : Json} {es : Environments} (h : ofFileJson json = .ok es)
    {name : String} (active : es.active = some name) : es.has name := by
  unfold ofFileJson at h
  split at h
  · obtain ⟨es', -, hcheck⟩ := bind_eq_ok_iff.1 h
    obtain ⟨rfl, known⟩ := checkActive_eq_ok_iff.1 hcheck
    exact known name active
  · cases h

/-- A file is turned down if its active environment is not among those that it has. -/
theorem has_of_load {fs : FileSystem} {path : Path} {es : Environments}
    (h : load fs path = .ok es) {name : String} (active : es.active = some name) :
    es.has name := by
  obtain ⟨json, hjson⟩ := exists_json_of_load h
  exact has_of_ofFileJson hjson active

/-- Without a selection there are variables, be it those of the active environment or the shared
ones. -/
theorem isSome_seeds?_none {es : Environments}
    (listed : ∀ name, es.active = some name → es.has name) : (es.seeds? none).isSome := by
  unfold seeds?
  rw [Option.none_or]
  cases hactive : es.active with
  | none => rfl
  | some name => simpa [has, Dict.contains, get?] using listed name hactive

theorem seeds?_some_eq_none_iff {es : Environments} {name : String} :
    es.seeds? (some name) = none ↔ es.get? name = none := by
  simp [seeds?]

end Environments

namespace CommandLine

open Environments (seeds?_some_eq_none_iff)
open Scenario (Report)

/-! ## Parts of a plan -/

variable {fs : FileSystem}

theorem loadConfig_eq_error_iff {path : Option Path} {e : LoadError} :
    loadConfig fs path = .error e ↔
      ∃ file cause, path = some file ∧ Config.loadFile fs file = .error cause ∧
        e = .config cause := by
  unfold loadConfig
  cases path with
  | none => simp
  | some file => cases h : Config.loadFile fs file <;> simp [h, eq_comm]

theorem loadEnvironments_of_none {config : Config} {directory : Path}
    {environmentFile : Option Path}
    (h : environmentPath? fs config directory environmentFile = none) :
    loadEnvironments fs config directory environmentFile = .ok .empty := by
  rw [loadEnvironments_eq, h]

theorem loadEnvironments_of_some {config : Config} {directory path : Path}
    {environmentFile : Option Path} {es : Environments}
    (h : environmentPath? fs config directory environmentFile = some path)
    (loaded : Environments.load fs path = .ok es) :
    loadEnvironments fs config directory environmentFile = .ok es := by
  rw [loadEnvironments_eq, h]
  dsimp only
  rw [loaded]
  rfl

theorem loadEnvironments_eq_error_iff {config : Config} {directory : Path}
    {environmentFile : Option Path} {e : LoadError} :
    loadEnvironments fs config directory environmentFile = .error e ↔
      ∃ path cause, environmentPath? fs config directory environmentFile = some path ∧
        Environments.load fs path = .error cause ∧ e = .environment cause := by
  rw [loadEnvironments_eq]
  cases environmentPath? fs config directory environmentFile with
  | none => simp
  | some path => cases h : Environments.load fs path <;> simp [h, Except.mapError, eq_comm]

theorem has_of_loadEnvironments {config : Config} {directory : Path}
    {environmentFile : Option Path} {es : Environments}
    (h : loadEnvironments fs config directory environmentFile = .ok es) {name : String}
    (active : es.active = some name) : es.has name := by
  rw [loadEnvironments_eq] at h
  cases hpath : environmentPath? fs config directory environmentFile with
  | none =>
    rw [hpath] at h
    cases h
    cases active
  | some path =>
    rw [hpath] at h
    cases hload : Environments.load fs path with
    | error cause => simp [hload, Except.mapError] at h
    | ok loaded =>
      obtain rfl : loaded = es := by simpa [hload, Except.mapError] using h
      exact Environments.has_of_load hload active

/-- Only a selection can be unknown: the active environment of a file is one of its own. -/
theorem selectSeeds_eq_error_iff {es : Environments}
    (listed : ∀ name, es.active = some name → es.has name) {selected : Option String}
    {e : LoadError} :
    selectSeeds es selected = .error e ↔
      ∃ name, selected = some name ∧ es.get? name = none ∧
        e = .environment (.unknownEnvironment name) := by
  unfold selectSeeds
  cases selected with
  | none =>
    obtain ⟨seeds, hseeds⟩ := Option.isSome_iff_exists.1 (Environments.isSome_seeds?_none listed)
    simp [hseeds]
  | some name =>
    cases h : es.seeds? (some name) with
    | none => simp [seeds?_some_eq_none_iff.1 h, eq_comm]
    | some seeds =>
      have known : es.get? name ≠ none := fun hnone => by
        rw [seeds?_some_eq_none_iff.2 hnone] at h
        cases h
      simp [known]

theorem loadSuite_eq_error_iff {directory : Path} {ignored : List String} {e : LoadError} :
    loadSuite fs directory ignored = .error e ↔
      (∃ cause, Suite.discover fs directory ignored = .error cause ∧ e = .suite cause) ∨
      ∃ before f after cause, Suite.discover fs directory ignored = .ok (before ++ f :: after) ∧
        (∀ g ∈ before, ∃ s, Suite.loadFile fs (g.path directory) = .ok s) ∧
        Suite.loadFile fs (f.path directory) = .error cause ∧ e = .suite cause := by
  have loaded : loadSuite fs directory ignored = .error e ↔
      ∃ cause, Suite.load fs directory ignored = .error cause ∧ e = .suite cause := by
    unfold loadSuite
    cases Suite.load fs directory ignored <;> simp [eq_comm]
  rw [loaded]
  simp only [Suite.load, bind_eq_error_iff, mapM_eq_error_iff]
  constructor
  · rintro ⟨cause, h | ⟨found, hfound, before, f, after, rfl, good, bad⟩, rfl⟩
    · exact .inl ⟨cause, h, rfl⟩
    · exact .inr ⟨before, f, after, cause, hfound, good, bad, rfl⟩
  · rintro (⟨cause, h, rfl⟩ | ⟨before, f, after, cause, hfound, good, bad, rfl⟩)
    · exact ⟨cause, .inl h, rfl⟩
    · exact ⟨cause, .inr ⟨_, hfound, before, f, after, rfl, good, bad⟩, rfl⟩

theorem loadSuite_eq_ok_iff {directory : Path} {ignored : List String}
    {scenarios : List Scenario} :
    loadSuite fs directory ignored = .ok scenarios ↔
      ∃ found, Suite.discover fs directory ignored = .ok found ∧
        List.Forall₂ (fun f s => Suite.loadFile fs (f.path directory) = .ok s) found scenarios := by
  have loaded : loadSuite fs directory ignored = .ok scenarios ↔
      Suite.load fs directory ignored = .ok scenarios := by
    unfold loadSuite
    cases Suite.load fs directory ignored <;> simp
  rw [loaded, Suite.load, bind_eq_ok_iff]
  simp only [mapM_eq_ok_iff]

/-! ## Plans -/

/-- Everything that a run needs is there: settings, environments, the variables of the selected
one, and a scenario in every file that is discovered. -/
structure Loads (fs : FileSystem) (a : RunArguments) (config : Config) (es : Environments)
    (seeds : Dict String) (found : List Suite.Found) (scenarios : List Scenario) : Prop where
  config_eq : loadConfig fs a.configFile = .ok config
  environments_eq : loadEnvironments fs config a.directory a.environmentFile = .ok es
  seeds_eq : es.seeds? (a.environment.or config.environment) = some seeds
  discovered : Suite.discover fs a.directory (ignoredNames config a.environmentFile) = .ok found
  files : List.Forall₂ (fun f s => Suite.loadFile fs (f.path a.directory) = .ok s) found scenarios

/-- The first thing that a run needs and does not get. -/
inductive FirstFault (fs : FileSystem) (a : RunArguments) : LoadError → Prop where
  | config {path : Path} {cause : ConfigError} (named : a.configFile = some path)
      (bad : Config.loadFile fs path = .error cause) : FirstFault fs a (.config cause)
  | environments {config : Config} {path : Path} {cause : EnvironmentError}
      (hconfig : loadConfig fs a.configFile = .ok config)
      (read : environmentPath? fs config a.directory a.environmentFile = some path)
      (bad : Environments.load fs path = .error cause) : FirstFault fs a (.environment cause)
  | selection {config : Config} {es : Environments} {name : String}
      (hconfig : loadConfig fs a.configFile = .ok config)
      (henvironments : loadEnvironments fs config a.directory a.environmentFile = .ok es)
      (selected : a.environment.or config.environment = some name)
      (unknown : es.get? name = none) :
      FirstFault fs a (.environment (.unknownEnvironment name))
  | directory {config : Config} {es : Environments} {seeds : Dict String}
      (hconfig : loadConfig fs a.configFile = .ok config)
      (henvironments : loadEnvironments fs config a.directory a.environmentFile = .ok es)
      (hselection : es.seeds? (a.environment.or config.environment) = some seeds)
      (missing : fs.directory? a.directory = none) :
      FirstFault fs a (.suite (.notFound a.directory))
  | listing {config : Config} {es : Environments} {seeds : Dict String} {tree : FileTree}
      {path : Path} (hconfig : loadConfig fs a.configFile = .ok config)
      (henvironments : loadEnvironments fs config a.directory a.environmentFile = .ok es)
      (hselection : es.seeds? (a.environment.or config.environment) = some seeds)
      (hdirectory : fs.directory? a.directory = some tree)
      (locked : Suite.scenarioFiles (ignoredNames config a.environmentFile) a.directory tree =
        .error path) : FirstFault fs a (.suite (.unreadable path .denied))
  | file {config : Config} {es : Environments} {seeds : Dict String}
      {before after : List Suite.Found} {f : Suite.Found} {cause : Suite.Error}
      (hconfig : loadConfig fs a.configFile = .ok config)
      (henvironments : loadEnvironments fs config a.directory a.environmentFile = .ok es)
      (hselection : es.seeds? (a.environment.or config.environment) = some seeds)
      (discovered : Suite.discover fs a.directory (ignoredNames config a.environmentFile) =
        .ok (before ++ f :: after))
      (good : ∀ g ∈ before, ∃ s, Suite.loadFile fs (g.path a.directory) = .ok s)
      (bad : Suite.loadFile fs (f.path a.directory) = .error cause) :
      FirstFault fs a (.suite cause)

/-- The variables that are bound at first, in order: those of the environment, the one for the
server, and those of the command line. -/
def seedPairs (a : RunArguments) (config : Config) (seeds : Dict String) :
    List (String × String) :=
  seeds.entries ++ (a.server.toList.map fun url => (config.baseUrlVariable, url)) ++ a.assignments

variable {a : RunArguments}

theorem selectSeeds_eq_ok_iff {es : Environments} {selected : Option String}
    {seeds : Dict String} :
    selectSeeds es selected = .ok seeds ↔ es.seeds? selected = some seeds := by
  unfold selectSeeds
  cases es.seeds? selected <;> simp

/-- A run has a plan if everything is there. -/
theorem plan_eq_ok_iff {p : Plan} :
    a.plan fs = .ok p ↔ ∃ config es seeds found scenarios,
      Loads fs a config es seeds found scenarios ∧
        p = ⟨config.baseUrlVariable, seedPairs a config seeds, scenarios⟩ := by
  unfold RunArguments.plan
  constructor
  · intro h
    obtain ⟨config, hconfig, h⟩ := bind_eq_ok_iff.1 h
    obtain ⟨es, henvironments, h⟩ := bind_eq_ok_iff.1 h
    obtain ⟨seeds, hseeds, h⟩ := bind_eq_ok_iff.1 h
    obtain ⟨scenarios, hsuite, h⟩ := bind_eq_ok_iff.1 h
    obtain ⟨found, discovered, files⟩ := loadSuite_eq_ok_iff.1 hsuite
    cases h
    exact ⟨config, es, seeds, found, scenarios,
      ⟨hconfig, henvironments, selectSeeds_eq_ok_iff.1 hseeds, discovered, files⟩, rfl⟩
  · rintro ⟨config, es, seeds, found, scenarios, loads, rfl⟩
    have hseeds := selectSeeds_eq_ok_iff.2 loads.seeds_eq
    have hsuite := loadSuite_eq_ok_iff.2 ⟨found, loads.discovered, loads.files⟩
    simp only [loads.config_eq, loads.environments_eq, hseeds, hsuite, ok_bind]
    rfl

/-- A run has no plan because of the first thing that is not there. -/
theorem plan_eq_error_iff {e : LoadError} : a.plan fs = .error e ↔ FirstFault fs a e := by
  unfold RunArguments.plan
  constructor
  · intro h
    obtain h | ⟨config, hconfig, h⟩ := bind_eq_error_iff.1 h
    · obtain ⟨path, cause, named, bad, rfl⟩ := loadConfig_eq_error_iff.1 h
      exact .config named bad
    obtain h | ⟨es, henvironments, h⟩ := bind_eq_error_iff.1 h
    · obtain ⟨path, cause, read, bad, rfl⟩ := loadEnvironments_eq_error_iff.1 h
      exact .environments hconfig read bad
    obtain h | ⟨seeds, hseeds, h⟩ := bind_eq_error_iff.1 h
    · have listed (name : String) := @has_of_loadEnvironments _ _ _ _ _ henvironments name
      obtain ⟨name, selected, unknown, rfl⟩ := (selectSeeds_eq_error_iff listed).1 h
      exact .selection hconfig henvironments selected unknown
    have hselection := selectSeeds_eq_ok_iff.1 hseeds
    obtain h | ⟨scenarios, -, h⟩ := bind_eq_error_iff.1 h
    · obtain ⟨cause, stopped, rfl⟩ | ⟨before, f, after, cause, discovered, good, bad, rfl⟩ :=
        loadSuite_eq_error_iff.1 h
      · obtain ⟨missing, rfl⟩ | ⟨tree, path, hdirectory, locked, rfl⟩ :=
          Suite.discover_eq_error_iff.1 stopped
        · exact .directory hconfig henvironments hselection missing
        · exact .listing hconfig henvironments hselection hdirectory locked
      · exact .file hconfig henvironments hselection discovered good bad
    · cases h
  · intro h
    cases h with
    | config named bad =>
      have stops := loadConfig_eq_error_iff.2 ⟨_, _, named, bad, rfl⟩
      rw [stops, error_bind]
    | environments hconfig read bad =>
      have stops := loadEnvironments_eq_error_iff.2 ⟨_, _, read, bad, rfl⟩
      rw [hconfig, ok_bind, stops, error_bind]
    | selection hconfig henvironments selected unknown =>
      have listed (name : String) := @has_of_loadEnvironments _ _ _ _ _ henvironments name
      have stops := (selectSeeds_eq_error_iff listed).2 ⟨_, selected, unknown, rfl⟩
      rw [hconfig, ok_bind, henvironments, ok_bind, stops, error_bind]
    | @directory config es seeds hconfig henvironments hselection missing =>
      have hseeds := selectSeeds_eq_ok_iff.2 hselection
      have stops : loadSuite fs a.directory (ignoredNames config a.environmentFile) = _ :=
        loadSuite_eq_error_iff.2
          (.inl ⟨_, Suite.discover_eq_error_iff.2 (.inl ⟨missing, rfl⟩), rfl⟩)
      rw [hconfig, ok_bind, henvironments, ok_bind, hseeds, ok_bind, stops, error_bind]
    | listing hconfig henvironments hselection hdirectory locked =>
      have hseeds := selectSeeds_eq_ok_iff.2 hselection
      have stops := loadSuite_eq_error_iff.2
        (.inl ⟨_, Suite.discover_eq_error_iff.2 (.inr ⟨_, _, hdirectory, locked, rfl⟩), rfl⟩)
      rw [hconfig, ok_bind, henvironments, ok_bind, hseeds, ok_bind, stops, error_bind]
    | file hconfig henvironments hselection discovered good bad =>
      have hseeds := selectSeeds_eq_ok_iff.2 hselection
      have stops := loadSuite_eq_error_iff.2 (.inr ⟨_, _, _, _, discovered, good, bad, rfl⟩)
      rw [hconfig, ok_bind, henvironments, ok_bind, hseeds, ok_bind, stops, error_bind]

/-! ## Runs -/

theorem isPassed_of_mem_run {σ : Type} {runner : Runner σ} {scenarios : List Scenario}
    {r : Report} (h : r ∈ (runner.run scenarios).1) : r.isPassed ↔ r.IsClean := by
  obtain ⟨s, e, store, rfl⟩ := Runner.exists_eq_report_of_mem_run h
  exact (Report.isPassed_eq_true_iff _).trans (Report.outcome_finish_eq_passed_iff _)

/-- The status of a run that has finished is 0 if no scenario has a problem, and 1 if one has. -/
theorem status_finished {reports : List Report} (settled : ∀ r ∈ reports, r.isPassed ↔ r.IsClean)
    (asJson : Bool) (startedAt finishedAt : Instant) (colored : Bool) :
    let status := ((Outcome.finished reports asJson).output startedAt finishedAt colored).status
    (status = 0 ↔ ∀ r ∈ reports, r.IsClean) ∧ (status = 1 ↔ ∃ r ∈ reports, ¬ r.IsClean) := by
  intro status
  have status_eq : status = if reports.all (·.isPassed) then 0 else 1 := rfl
  by_cases clean : ∀ r ∈ reports, r.IsClean
  · have passed : reports.all (·.isPassed) := List.all_eq_true.2 fun r hr =>
      (settled r hr).2 (clean r hr)
    rw [status_eq, if_pos passed]
    exact ⟨iff_of_true rfl clean, iff_of_false (by decide) (by simpa using clean)⟩
  · have failed : ¬ reports.all (·.isPassed) := fun passed => clean fun r hr =>
      (settled r hr).1 (List.all_eq_true.1 passed r hr)
    rw [status_eq, if_neg failed]
    exact ⟨iff_of_false (by decide) clean, iff_of_true rfl (by simpa using clean)⟩

variable {σ : Type}

theorem execute_eq_failed_iff {e : LoadError} {client : Http.Client σ} {state : σ} :
    ((Invocation.run a).execute fs client state).1 = .failed e ↔ FirstFault fs a e := by
  rw [← plan_eq_error_iff, Invocation.execute, RunArguments.perform]
  cases a.plan fs <;> simp

theorem execute_of_fault {e : LoadError} (h : FirstFault fs a e) (client : Http.Client σ)
    (state : σ) : (Invocation.run a).execute fs client state = (.failed e, state) := by
  rw [Invocation.execute, RunArguments.perform, plan_eq_error_iff.2 h]

theorem execute_of_loads {config : Config} {es : Environments} {seeds : Dict String}
    {found : List Suite.Found} {scenarios : List Scenario}
    (loads : Loads fs a config es seeds found scenarios) (client : Http.Client σ) (state : σ) :
    (Invocation.run a).execute fs client state =
      let p : Plan := ⟨config.baseUrlVariable, seedPairs a config seeds, scenarios⟩
      let (reports, r) := (p.runner client state).run scenarios
      (.finished reports a.asJson, r.state) := by
  have planned := plan_eq_ok_iff.2 ⟨config, es, seeds, found, scenarios, loads, rfl⟩
  rw [Invocation.execute, RunArguments.perform, planned]

/-- Either everything is there or something is the first that is not. -/
theorem exists_fault_iff :
    (∃ e, FirstFault fs a e) ↔
      ¬ ∃ config es seeds found scenarios, Loads fs a config es seeds found scenarios := by
  simp only [← plan_eq_error_iff]
  cases h : a.plan fs with
  | error e =>
    refine iff_of_true ⟨e, rfl⟩ ?_
    rintro ⟨config, es, seeds, found, scenarios, loads⟩
    rw [plan_eq_ok_iff.2 ⟨config, es, seeds, found, scenarios, loads, rfl⟩] at h
    cases h
  | ok p =>
    obtain ⟨config, es, seeds, found, scenarios, loads, -⟩ := plan_eq_ok_iff.1 h
    exact iff_of_false (by simp) fun missing => missing ⟨config, es, seeds, found, scenarios, loads⟩

/-- A run for which not everything is there ends with the first fault and status 2, and the client
is sent nothing. Any other run gives a report for each scenario file, in the order of discovery,
and its status is 0 if no report has a problem and 1 if one has. -/
theorem execute_run (fs : FileSystem) (a : RunArguments) (client : Http.Client σ) (state : σ) :
    let result := (Invocation.run a).execute fs client.recording (state, [])
    ((∃ e, FirstFault fs a e) ↔
      ¬ ∃ config es seeds found scenarios, Loads fs a config es seeds found scenarios) ∧
    (∀ e, result.1 = .failed e ↔ FirstFault fs a e) ∧
    (∀ e, FirstFault fs a e → result.2 = (state, []) ∧
      ∀ startedAt finishedAt colored,
        let output := result.1.output startedAt finishedAt colored
        output.status = 2 ∧ output.out = "" ∧
          output.err = Suite.Look.boldRed.paint colored "Error:" ++ " " ++ e.message ++ "\n") ∧
    ∀ config es seeds found scenarios, Loads fs a config es seeds found scenarios →
      let runner := Plan.runner ⟨config.baseUrlVariable, seedPairs a config seeds, scenarios⟩
        client.recording (state, [])
      ∃ reports, result.1 = .finished reports a.asJson ∧
        result.2 = (runner.run scenarios).2.state ∧ reports.length = found.length ∧
        (∀ k, reports[k]? = scenarios[k]?.map fun s => ((runner.before scenarios k).runOne s).1) ∧
        ∀ startedAt finishedAt colored,
          let status := (result.1.output startedAt finishedAt colored).status
          (status = 0 ↔ ∀ r ∈ reports, r.IsClean) ∧ (status = 1 ↔ ∃ r ∈ reports, ¬ r.IsClean) := by
  intro result
  refine ⟨exists_fault_iff, fun e => execute_eq_failed_iff, fun e h => ?_, ?_⟩
  · have same : result = (.failed e, state, []) := execute_of_fault h client.recording _
    rw [same]
    exact ⟨rfl, fun _ _ _ => ⟨rfl, rfl, rfl⟩⟩
  · intro config es seeds found scenarios loads runner
    have finished : result =
        (.finished (runner.run scenarios).1 a.asJson, (runner.run scenarios).2.state) :=
      execute_of_loads loads client.recording (state, [])
    rw [finished]
    refine ⟨_, rfl, rfl, ?_, runner.getElem?_run scenarios,
      status_finished (fun r => isPassed_of_mem_run) _⟩
    rw [Runner.length_run, loads.files.length_eq]

/-- Of a login and a request with its token both are sent, although the login does not answer as
expected; with a broken file behind them neither is. -/
theorem execute_run_brokenFile :
    let login := Text.Utf8.encode ("request:\n  method: POST\n  url: /login\n" ++
      "expect:\n  status: 201\ncapture:\n- token = $.token\n")
    let orders := Text.Utf8.encode ("request:\n  method: GET\n" ++
      "  url: /orders?key=\x7b\x7btoken\x7d\x7d\nexpect:\n  status: 200\n")
    let fine : List (Path × FileTree) := [("01.yaml", .file login), ("02.yml", .file orders)]
    let broken : Path × FileTree := ("03.json", .file (Text.Utf8.encode "request: [GET, /orders]"))
    let fs (suite : List (Path × FileTree)) : FileSystem :=
      ⟨.directory [("suite", .directory suite)], []⟩
    let a : RunArguments := ⟨"suite", none, none, none, some "http://h", [], false⟩
    let client := Http.Client.stateless fun _ =>
      .ok (.ofJson 200 (.object [("token", .string "t1")]) ⟨"", .ofUrl .get ""⟩)
    (let result := (Invocation.run a).execute (fs fine) client.recording ((), [])
      ∃ reports, result.1 = .finished reports false ∧ reports.map (·.isPassed) = [false, true] ∧
        result.2.2.map (·.url) = ["http://h/orders?key=t1", "http://h/login"] ∧
        ∀ t colored, (result.1.output t t colored).status = 1) ∧
    ∃ cause, FirstFault (fs (fine ++ [broken])) a (.suite cause) ∧
      let result := (Invocation.run a).execute (fs (fine ++ [broken])) client.recording ((), [])
      result.1 = .failed (.suite cause) ∧ result.2 = ((), []) ∧
        ∀ t colored, (result.1.output t t colored).status = 2 := by
  intro login orders fine broken fs a client
  let found : List Suite.Found := [⟨["01.yaml"]⟩, ⟨["02.yml"]⟩]
  have discovered : Suite.discover (fs fine) "suite" (ignoredNames .standard none) = .ok found :=
    Suite.discover_of_pairwise rfl (by decide +kernel) (toOption_eq_some_iff.1 (by decide +kernel))
  have discovered' : Suite.discover (fs (fine ++ [broken])) "suite" (ignoredNames .standard none) =
      .ok (found ++ [⟨["03.json"]⟩]) :=
    Suite.discover_of_pairwise rfl (by decide +kernel) (toOption_eq_some_iff.1 (by decide +kernel))
  refine ⟨?_, ?_⟩
  · let runner (scenarios : List Scenario) :=
      Plan.runner ⟨"server", [("server", "http://h")], scenarios⟩ client.recording ((), [])
    have ran : (found.mapM fun f => Suite.loadFile (fs fine) (f.path "suite")).toOption.map
        (fun scenarios =>
          let (reports, r) := (runner scenarios).run scenarios
          (reports.map (·.isPassed), r.state.2.map (·.url))) =
        some ([false, true], ["http://h/orders?key=t1", "http://h/login"]) := by decide +kernel
    obtain ⟨scenarios, hscenarios, hran⟩ := Option.map_eq_some_iff.1 ran
    obtain ⟨passed, sent⟩ := Prod.mk.inj hran
    have files := mapM_eq_ok_iff.1 (toOption_eq_some_iff.1 hscenarios)
    have absent : environmentPath? (fs fine) .standard "suite" none = none := by decide +kernel
    have loads : Loads (fs fine) a .standard .empty .empty found scenarios :=
      ⟨rfl, loadEnvironments_of_none absent, rfl, discovered, files⟩
    obtain ⟨-, -, -, runs⟩ := execute_run (fs fine) a client ()
    obtain ⟨reports, finished, states, -, each, status⟩ := runs _ _ _ _ _ loads
    obtain rfl : reports = ((runner scenarios).run scenarios).1 := List.ext_getElem? fun k =>
      (each k).trans ((runner scenarios).getElem?_run scenarios k).symm
    refine ⟨_, finished, passed, by rw [states]; exact sent, fun t colored => ?_⟩
    obtain ⟨r, hr, failed⟩ : ∃ r ∈ ((runner scenarios).run scenarios).1, r.isPassed = false :=
      List.mem_map.1 (by rw [passed]; exact List.mem_cons_self)
    refine (status t t colored).2.2 ⟨r, hr, fun clean => ?_⟩
    rw [(isPassed_of_mem_run hr).2 clean] at failed
    cases failed
  · let load (path : Path) := Suite.loadFile (fs (fine ++ [broken])) path
    have loaded : found.all fun g => (load (g.path "suite")).toOption.isSome := by decide +kernel
    have good : ∀ g ∈ found, ∃ s, load (g.path "suite") = .ok s := fun g hg =>
      isSome_toOption_iff.1 (List.all_eq_true.1 loaded g hg)
    obtain ⟨cause, bad⟩ : ∃ cause, load (Suite.Found.path ⟨["03.json"]⟩ "suite") = .error cause :=
      toOption_eq_none_iff.1 (Option.isNone_iff_eq_none.1 (by decide +kernel))
    have absent : environmentPath? (fs (fine ++ [broken])) .standard "suite" none = none := by
      decide +kernel
    have fault : FirstFault (fs (fine ++ [broken])) a (.suite cause) :=
      .file rfl (loadEnvironments_of_none absent) rfl discovered' good bad
    obtain ⟨-, failed, unsent, -⟩ := execute_run (fs (fine ++ [broken])) a client ()
    exact ⟨cause, fault, (failed _).2 fault, (unsent _ fault).1,
      fun t colored => ((unsent _ fault).2 t t colored).1⟩

end CommandLine

end ScenarioSuite
