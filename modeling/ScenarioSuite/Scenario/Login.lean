import ScenarioSuite.Scenario.Run

/-!
# The login scenario

A scenario that comes with the library: the owner of an organisation logs in, and the token is kept
for the scenarios behind it.

## Main definitions

* `Tokens`: what the response to a login holds.
* `ownerLogin`: the scenario.
-/

namespace ScenarioSuite.Scenario

/-- What the response to a login holds. -/
structure Tokens where
  accessToken : Option String
  refreshToken : Option String
deriving Repr, DecidableEq

namespace Tokens

/-- How tokens are read. -/
def schema : Schema Tokens :=
  .record "TokenResponse"
    (.cons "access_token" (.optional .text) (.allowed none) <|
     .cons "refresh_token" (.optional .text) (.allowed none) .nil)
    fun (access, refresh, ()) => ⟨access, refresh⟩

/-- The tokens in a response. -/
def ofResponse (response : Http.Response) : Except TeardownError Tokens :=
  match schema.parseJsonBytes response.body with
  | .ok tokens => .ok tokens
  | .error e => .error (.badBody e.message)

/-- The access token, which a variable is to get. -/
def requireAccess (tokens : Tokens) (variableName : String) : Except TeardownError String :=
  match tokens.accessToken with
  | some token => .ok token
  | none => .error (.missingField variableName "access_token")

end Tokens

/-- The password of every account that test data is made with. -/
def seededPassword : String := "itsasecret"

/-- The variable that gets the token. -/
def ownerToken : String := "org_owner_token"

/-- Keeps the access token of a response. -/
def keepOwnerToken (response : Http.Response) (store : Store) : TeardownResult :=
  match do (← Tokens.ofResponse response).requireAccess ownerToken with
  | .ok token => (store.set ownerToken token, none)
  | .error e => (store, some e)

/-- The owner of an organisation logs in. -/
def ownerLogin : Scenario where
  name := "OrgOwner - Login"
  request :=
    (((RequestTemplate.ofUrl .post "/auth/token").withHeader "Accept" "application/json").withHeader
      "Content-Type" "application/json").withBody <| .text <|
        "\x7b\"email\":\"\x7b\x7blast_org_owner_email\x7d\x7d\",\"password\": \"" ++
          seededPassword ++ "\"\x7d"
  assertions :=
    [.statusEquals 200, .hasProperty "access_token", .hasProperty "refresh_token"]
  teardown := .action keepOwnerToken

end ScenarioSuite.Scenario
