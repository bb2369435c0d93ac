import ScenarioSuite.Json.Parse

/-!
# Environments

An environment is a set of variables under a name. Several of them share some variables; one of
them may be the active one, which is taken when none is selected.

## Main definitions

* `Environment`, `Environments`.
* `Environments.add`, `Environments.setActive`, `Environments.setShared`.
* `Environments.seeds?`: the variables of a selection.
-/

namespace ScenarioSuite

/-- Variables under a name. -/
structure Environment where
  name : String
  values : Dict String
deriving DecidableEq

namespace Environment

/-- An environment without variables. -/
def ofName (name : String) : Environment := ⟨name, Dict.empty⟩

/-- The value of a variable. -/
def get? (e : Environment) (key : String) : Option String :=
  e.values.get? key

/-- The environment with one more variable. -/
def set (e : Environment) (key value : String) : Environment :=
  { e with values := e.values.insert key value }

/-- The number of variables. -/
def size (e : Environment) : Nat :=
  e.values.size

/-- How an environment is read. -/
def schema : Schema Environment :=
  .record "Environment"
    (.cons "name" .text .refused <|
     .cons "variables" (.dict .text) (.standard Dict.empty) .nil)
    fun (name, values, ()) => ⟨name, values⟩

/-- The environment in JSON. -/
def toJson (e : Environment) : Json :=
  Json.objectOf [("name", .string e.name), ("variables", .ofDict e.values)]

end Environment

/-- Environments, the variables they share, and the name of the active one. -/
structure Environments where
  environments : Dict Environment
  shared : Dict String
  active : Option String
deriving DecidableEq

namespace Environments

/-- No environment and no variable. -/
def empty : Environments := ⟨Dict.empty, Dict.empty, none⟩

/-- Adds an environment under its name, in place of one with that name. -/
def add (es : Environments) (e : Environment) : Environments :=
  { es with environments := es.environments.insert e.name e }

/-- The environment of a name. -/
def get? (es : Environments) (name : String) : Option Environment :=
  es.environments.get? name

/-- Whether there is an environment of the name. -/
def has (es : Environments) (name : String) : Bool :=
  es.environments.contains name

/-- Makes the environment of a name the active one. If there is none it says so, and nothing
changes. -/
def setActive (es : Environments) (name : String) : Bool × Environments :=
  if es.has name then (true, { es with active := some name }) else (false, es)

/-- Gives a shared variable a value. -/
def setShared (es : Environments) (key value : String) : Environments :=
  { es with shared := es.shared.insert key value }

/-- The number of environments. -/
def size (es : Environments) : Nat :=
  es.environments.size

/-- The names in order. -/
def names (es : Environments) : List String :=
  es.environments.keys

/-- The variables of a selection, or failing that of the active environment. The environment's own
variables come before shared ones. There are none if the environment does not exist. -/
def seeds? (es : Environments) (selected : Option String) : Option (Dict String) :=
  match selected.or es.active with
  | none => some es.shared
  | some name => (es.get? name).map fun e => es.shared.merge e.values

/-- How environments are read. -/
def schema : Schema Environments :=
  .record "Environments"
    (.cons "environments" (.dict Environment.schema) (.standard Dict.empty) <|
     .cons "shared" (.dict .text) (.standard Dict.empty) <|
     .cons "active" (.optional .text) (.allowed none) .nil)
    fun (environments, shared, active, ()) => ⟨environments, shared, active⟩

/-- The environments in JSON; without an active one there is no member for it. -/
def toJson (es : Environments) : Json :=
  Json.objectOf <|
    [("environments", .object (es.environments.entries.map fun entry => (entry.1, entry.2.toJson))),
     ("shared", .ofDict es.shared)] ++
    match es.active with
    | some name => [("active", .string name)]
    | none => []

end Environments

end ScenarioSuite
