import ScenarioSuite.Duration
import ScenarioSuite.Files.Tree
import ScenarioSuite.Json.Parse
import ScenarioSuite.Text.Blank

/-!
# Configuration

The settings of a runner. Every setting has a standard value, so that a file names only those that
differ from it.

## Main definitions

* `Config`, `Config.standard`.
* `Config.load`, `Config.loadFile`: reading, with a check of what is read.
* `Execution`: the settings that sending requests needs.
-/

namespace ScenarioSuite

/-- The settings of a runner. -/
structure Config where
  timeout : Nat
  followRedirects : Bool
  maxRedirects : Nat
  validateSsl : Bool
  defaultHeaders : Dict String
  environmentFile : String
  environment : Option String
  baseUrlVariable : String
deriving DecidableEq

/-- A setting with a value that cannot be used. -/
inductive ConfigFault where
  | noTimeout
  | noEnvironmentFile
  | noBaseUrlVariable
deriving Repr, DecidableEq

/-- The fault in words. -/
def ConfigFault.message : ConfigFault → String
  | .noTimeout => "timeout must be greater than 0"
  | .noEnvironmentFile => "environmentFile must not be empty"
  | .noBaseUrlVariable => "baseUrlVariable must not be empty"

/-- Why there is no configuration. -/
inductive ConfigError where
  | unreadable (path : Path) (cause : FileError)
  | unparsable (cause : Json.Error)
  | invalid (fault : ConfigFault)

/-- The error in words. -/
def ConfigError.message : ConfigError → String
  | .unreadable path cause => "Failed to read config file " ++ Path.display path ++ ": " ++ cause.message
  | .unparsable cause => "Failed to parse configuration: " ++ cause.message
  | .invalid fault => "Invalid configuration: " ++ fault.message

namespace Config

/-- The version of the program. -/
def version : String := "0.1.0"

/-- The standard headers. -/
def standardHeaders : Dict String :=
  Dict.ofList
    [("Accept", "application/json"), ("Content-Type", "application/json"),
     ("User-Agent", "api-scenarios/" ++ version)]

/-- The standard settings. -/
def standard : Config where
  timeout := 30000
  followRedirects := true
  maxRedirects := 10
  validateSsl := true
  defaultHeaders := standardHeaders
  environmentFile := "scenario-env.json"
  environment := none
  baseUrlVariable := "server"

/-- How settings are read. -/
def schema : Schema Config :=
  .record "RunnerConfig"
    (.cons "timeout" (.natural 64) (.standard standard.timeout) <|
     .cons "followRedirects" .flag (.standard standard.followRedirects) <|
     .cons "maxRedirects" (.natural 32) (.standard standard.maxRedirects) <|
     .cons "validateSsl" .flag (.standard standard.validateSsl) <|
     .cons "defaultHeaders" (.dict .text) (.standard standard.defaultHeaders) <|
     .cons "environmentFile" .text (.standard standard.environmentFile) <|
     .cons "environment" (.optional .text) (.standard standard.environment) <|
     .cons "baseUrlVariable" .text (.standard standard.baseUrlVariable) .nil)
    fun (timeout, followRedirects, maxRedirects, validateSsl, defaultHeaders, environmentFile,
        environment, baseUrlVariable, ()) =>
      ⟨timeout, followRedirects, maxRedirects, validateSsl, defaultHeaders, environmentFile,
        environment, baseUrlVariable⟩

/-- The settings in JSON. -/
def toJson (c : Config) : Json :=
  Json.objectOf
    [("timeout", .ofNat c.timeout), ("followRedirects", .bool c.followRedirects),
     ("maxRedirects", .ofNat c.maxRedirects), ("validateSsl", .bool c.validateSsl),
     ("defaultHeaders", .ofDict c.defaultHeaders),
     ("environmentFile", .string c.environmentFile),
     ("environment", .ofString? c.environment),
     ("baseUrlVariable", .string c.baseUrlVariable)]

/-- The first setting that cannot be used. -/
def fault? (c : Config) : Option ConfigFault :=
  if c.timeout = 0 then some .noTimeout
  else if Text.isAllBlank c.environmentFile then some .noEnvironmentFile
  else if Text.isAllBlank c.baseUrlVariable then some .noBaseUrlVariable
  else none

/-- The settings, if all can be used. -/
def check (c : Config) : Except ConfigError Config :=
  match c.fault? with
  | some fault => .error (.invalid fault)
  | none => .ok c

/-- The settings of a JSON value. -/
def load (settings : Json) : Except ConfigError Config :=
  match schema.ofJson settings with
  | .error m => .error (.unparsable ⟨.mismatch m, none⟩)
  | .ok c => c.check

/-- The settings of a file. -/
def loadFile (fs : FileSystem) (path : Path) : Except ConfigError Config :=
  match fs.readText path with
  | .error e => .error (.unreadable path e)
  | .ok text =>
    match Json.parse text with
    | .error e => .error (.unparsable e)
    | .ok settings => load settings

/-- How long a response may take. -/
def timeoutSpan (c : Config) : Duration :=
  .ofMilliseconds c.timeout

end Config

/-- The settings that sending requests needs. -/
structure Execution where
  timeoutMs : Nat
  followRedirects : Bool
  maxRedirects : Nat
  validateSsl : Bool
  defaultHeaders : Dict String
deriving DecidableEq

namespace Execution

/-- The settings that sending requests takes from a configuration. -/
def ofConfig (c : Config) : Execution :=
  ⟨c.timeout, c.followRedirects, c.maxRedirects, c.validateSsl, c.defaultHeaders⟩

/-- The settings in JSON. -/
def toJson (e : Execution) : Json :=
  Json.objectOf
    [("timeout_ms", .ofNat e.timeoutMs), ("follow_redirects", .bool e.followRedirects),
     ("max_redirects", .ofNat e.maxRedirects), ("validate_ssl", .bool e.validateSsl),
     ("default_headers", .ofDict e.defaultHeaders)]

end Execution

end ScenarioSuite
