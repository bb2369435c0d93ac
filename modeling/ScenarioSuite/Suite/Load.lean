import ScenarioSuite.Scenario.Definition
import ScenarioSuite.Suite.Discovery
import ScenarioSuite.Yaml.Decode

/-!
# Loading suites

A suite is loaded from a directory. The first file that cannot be read or parsed stops the loading.
A scenario without a name of its own takes that of its file.

## Main definitions

* `Suite.Error`: why a suite is not loaded.
* `Suite.discover`: the scenario files of a directory.
* `Suite.loadFile`, `Suite.load`: the scenarios of a file, and of a directory.
-/

namespace ScenarioSuite.Suite

/-- Why a suite is not loaded. -/
inductive Error where
  | notFound (path : Path)
  | unreadable (path : Path) (cause : FileError)
  | unparsable (path : Path) (cause : Yaml.Error)

/-- The error in words. -/
def Error.message : Error → String
  | .notFound path => "Suite directory not found: " ++ Path.display path
  | .unreadable path cause => "Failed to read " ++ Path.display path ++ ": " ++ cause.message
  | .unparsable path cause =>
    "Failed to parse scenario file " ++ Path.display path ++ ": " ++ cause.message

/-- The scenario files of a directory in order. -/
def discover (fs : FileSystem) (root : Path) (ignored : List String) :
    Except Error (List Found) :=
  match fs.directory? root with
  | none => .error (.notFound root)
  | some tree => (scenarioFiles ignored root tree).mapError fun path => .unreadable path .denied

/-- The name that the scenario of a file takes if it has none. -/
def fallbackName (path : Path) : String :=
  match Path.fileName? path with
  | some name => (Path.stem name).display
  | none => ""

/-- The scenario that a file's text defines. -/
def loadText (path : Path) (text : String) : Except Error Scenario :=
  match Scenario.Definition.schema.parseYaml text with
  | .error e => .error (.unparsable path e)
  | .ok definition => .ok (definition.scenario (fallbackName path))

/-- The scenario of a file. -/
def loadFile (fs : FileSystem) (path : Path) : Except Error Scenario :=
  match fs.readText path with
  | .error e => .error (.unreadable path e)
  | .ok text => loadText path text

/-- The scenarios of a directory in order. -/
def load (fs : FileSystem) (root : Path) (ignored : List String) :
    Except Error (List Scenario) := do
  (← discover fs root ignored).mapM fun found => loadFile fs (found.path root)

end ScenarioSuite.Suite
