import ScenarioSuite.Http.Message

/-!
# Clients

A client answers requests one after another. What it answers may depend on what it was asked
before, so it is a state machine. Sending fails with a cause; a response that broke off in the
middle is part of the cause.

## Main definitions

* `Failure`, `Failure.message`, `Failure.partial?`.
* `Client`: a state machine from requests to responses or failures.
* `Client.recording`: the client that also keeps a list of what it was asked.
-/

namespace ScenarioSuite.Http

/-- Why a request has no complete response. -/
inductive Failure where
  | network (message : String)
  | timeout
  | badUrl (message : String)
  | security (message : String)
  | unbuildable (message : String)
  | unsupportedProtocol (message : String)
  /-- The response broke off. -/
  | incomplete (message : String) (response : Response)
deriving DecidableEq

namespace Failure

/-- The failure in words. -/
def message : Failure → String
  | .network m => "Network error: " ++ m
  | .timeout => "Request timed out"
  | .badUrl m => "Invalid URL: " ++ m
  | .security m => "TLS/SSL error: " ++ m
  | .unbuildable m => "Request build error: " ++ m
  | .unsupportedProtocol m => "Unsupported protocol: " ++ m
  | .incomplete m response => "Incomplete response (" ++ toString response.status ++ "): " ++ m

/-- The part of the response that arrived. -/
def partial? : Failure → Option Response
  | .incomplete _ response => some response
  | _ => none

theorem partial?_eq_some_iff {f : Failure} {response : Response} :
    f.partial? = some response ↔ ∃ message, f = .incomplete message response := by
  cases f <;> simp [partial?]

theorem partial?_eq_none_iff {f : Failure} :
    f.partial? = none ↔ ∀ message response, f ≠ .incomplete message response := by
  cases f <;> simp [partial?]

end Failure

/-- A state machine from requests to responses or failures. -/
structure Client (σ : Type) where
  send : σ → Request → Except Failure Response × σ

namespace Client

variable {σ : Type}

/-- The client that also keeps the requests it was sent, the latest in front. -/
def recording (client : Client σ) : Client (σ × List Request) where
  send := fun (state, sent) request =>
    let (reply, state) := client.send state request
    (reply, state, request :: sent)

/-- The client whose reply depends on the request alone. -/
def stateless (reply : Request → Except Failure Response) : Client Unit where
  send := fun state request => (reply request, state)

end Client

end ScenarioSuite.Http
