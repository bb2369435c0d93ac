import ScenarioSuite.Environment.Basic
import ScenarioSuite.Files.Tree

/-!
# Environment files

An environment file is a JSON object. Each member is an environment, except for the shared
variables and the name of the active environment, which both may be written with a dollar sign.
The file is looked for in a directory and in three more above it.

## Main definitions

* `EnvironmentError`: why there are no environments.
* `Environments.ofFileJson`: the environments of a file's JSON.
* `Environments.load`, `Environments.discover`.
-/

namespace ScenarioSuite

/-- What is wrong in an environment file. -/
inductive EnvironmentFormatError where
  | notObject
  | badActive (key : String) (value : Json)
  | badName (name : String)
  | unknownActive (name : String)
  | notVariables (context : String)
  | badVariable (key context : String)

/-- The error in words. -/
def EnvironmentFormatError.message : EnvironmentFormatError → String
  | .notObject => "Root must be a JSON object"
  | .badActive key value => "'" ++ key ++ "' must be an environment name, got " ++ value.render
  | .badName name =>
    "Invalid environment name: '" ++ name ++
      "'. Names must be alphanumeric with underscores/hyphens"
  | .unknownActive name => "Active environment '" ++ name ++ "' does not exist"
  | .notVariables context => "'" ++ context ++ "' must be a JSON object"
  | .badVariable key context =>
    "Variable '" ++ key ++ "' in '" ++ context ++
      "' has invalid type (must be string, number, or boolean)"

/-- Why there are no environments. -/
inductive EnvironmentError where
  | fileNotFound (path : Path)
  | notJson (cause : Json.Error)
  | badFormat (cause : EnvironmentFormatError)
  | unknownEnvironment (name : String)
  | unreadable (cause : FileError)

/-- The error in words. -/
def EnvironmentError.message : EnvironmentError → String
  | .fileNotFound path => "Environment file not found: " ++ Path.display path
  | .notJson cause => "Failed to parse environment file: " ++ cause.message
  | .badFormat cause => "Invalid environment format: " ++ cause.message
  | .unknownEnvironment name => "Environment '" ++ name ++ "' not found"
  | .unreadable cause => "IO error: " ++ cause.message

namespace Environments

/-- The value of a variable in a file. Numbers and truth values stand for their texts, null for
the empty one. -/
def valueOf? : Json → Option String
  | .string s => some s
  | .number n => some n.render
  | .bool true => some "true"
  | .bool false => some "false"
  | .null => some ""
  | _ => none

/-- The variables of a file's object; the context names it in errors. -/
def variablesOf (context : String) : Json → Except EnvironmentFormatError (Dict String)
  | .object members =>
    members.foldlM (fun values (key, value) =>
      match valueOf? value with
      | some text => .ok (values.insert key text)
      | none => .error (.badVariable key context)) Dict.empty
  | _ => .error (.notVariables context)

/-- A character of an environment's name. -/
def isNameChar (c : Char) : Bool :=
  c.isAlphanum || c == '_' || c == '-'

/-- Whether a member of a file names an environment. -/
def isName (name : String) : Bool :=
  match name.toList with
  | [] => false
  | c :: rest => (c.isAlpha || c == '_') && rest.all isNameChar

/-- Takes in one member of a file. -/
def addMember (es : Environments) (key : String) (value : Json) :
    Except EnvironmentFormatError Environments :=
  if key = "shared" ∨ key = "$shared" then do
    return { es with shared := ← variablesOf "shared" value }
  else if key = "active" ∨ key = "$active" then
    match value with
    | .string name => .ok { es with active := some name }
    | other => .error (.badActive key other)
  else if isName key then do
    return es.add ⟨key, ← variablesOf key value⟩
  else .error (.badName key)

/-- The environments, if the active one is among them. -/
def checkActive (es : Environments) : Except EnvironmentFormatError Environments :=
  match es.active with
  | none => .ok es
  | some name => if es.has name then .ok es else .error (.unknownActive name)

/-- The environments of a file's JSON. -/
def ofFileJson : Json → Except EnvironmentFormatError Environments
  | .object members => do
    let es ← members.foldlM (fun (es : Environments) (key, value) => es.addMember key value) empty
    es.checkActive
  | _ => .error .notObject

/-- The environments of a file's text. -/
def ofFileText (text : String) : Except EnvironmentError Environments :=
  match Json.parse text with
  | .error e => .error (.notJson e)
  | .ok json =>
    match ofFileJson json with
    | .error e => .error (.badFormat e)
    | .ok es => .ok es

/-- The environments of a file. -/
def load (fs : FileSystem) (path : Path) : Except EnvironmentError Environments :=
  if !fs.isFile path then .error (.fileNotFound path)
  else match fs.readText path with
    | .error e => .error (.unreadable e)
    | .ok text => ofFileText text

/-- The number of directories in which the file is looked for. -/
def searchDepth : Nat := 4

/-- The first file of the name in a directory and so many of those above it. -/
def findFile? (fs : FileSystem) (name : Path) : Nat → Path → Option Path
  | 0, _ => none
  | depth + 1, directory =>
    let candidate := Path.join directory name
    if fs.isFile candidate then some candidate
    else (Path.parent? directory).bind (findFile? fs name depth)

/-- The environments of the file that is found from a directory; without a file there are none. -/
def discover (fs : FileSystem) (directory name : Path) : Except EnvironmentError Environments :=
  match findFile? fs name searchDepth directory with
  | some path => load fs path
  | none => .ok empty

end Environments

end ScenarioSuite
