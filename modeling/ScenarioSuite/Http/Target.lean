import ScenarioSuite.Address.Basic
import ScenarioSuite.Http.Client

/-!
# Targets of requests

A request can be sent only to an address of the web that is reached in plain or secured form.

## Main definitions

* `Request.target`: the address that a request goes to, or the failure to send it.
* `Client.checked`: a client that is asked only if there is such an address.
* `Client.unconnected`: the client that reaches nobody.
-/

namespace ScenarioSuite.Http

/-- The schemes of addresses that requests can be sent to. -/
def schemes : List String := ["http", "https"]

/-- The address that a request goes to. -/
def Request.target (r : Request) : Except Failure Address :=
  match Address.parse r.url with
  | .error fault => .error (.badUrl fault.message)
  | .ok address =>
    if schemes.contains address.scheme then .ok address
    else .error
      (.unsupportedProtocol ("Only HTTP and HTTPS are supported, got: " ++ address.scheme))

/-- The client that refuses requests to any other address. -/
def Client.checked {σ : Type} (client : Client σ) : Client σ where
  send := fun state request =>
    match request.target with
    | .error failure => (.error failure, state)
    | .ok _ => client.send state request

/-- The client that reaches nobody. -/
def Client.unconnected : Client Unit :=
  (Client.stateless fun _ => .error (.network "no connection")).checked

end ScenarioSuite.Http
