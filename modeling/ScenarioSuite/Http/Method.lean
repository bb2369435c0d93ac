import ScenarioSuite.Text.Fold

/-!
# Request methods
-/

namespace ScenarioSuite.Http

/-- A request method. -/
inductive Method where
  | get
  | post
  | put
  | delete
  | patch
  | options
  | head
deriving Repr, DecidableEq

namespace Method

/-- The name of a method. -/
def name : Method → String
  | .get => "GET"
  | .post => "POST"
  | .put => "PUT"
  | .delete => "DELETE"
  | .patch => "PATCH"
  | .options => "OPTIONS"
  | .head => "HEAD"

/-- Every method. -/
def all : List Method :=
  [.get, .post, .put, .delete, .patch, .options, .head]

/-- The method of a name in capitals. -/
def ofName? (s : String) : Option Method :=
  all.find? fun m => m.name == s

/-- The method of a name in letters of any case. -/
def parse? (s : String) : Option Method :=
  ofName? (Text.capitals s)

/-- Every method under its name. -/
def named : List (String × Method) :=
  all.map fun m => (m.name, m)

end Method

end ScenarioSuite.Http
