import ScenarioSuite.Duration
import ScenarioSuite.Http.Headers
import ScenarioSuite.Http.Method
import ScenarioSuite.Http.Status
import ScenarioSuite.Json.Parse

/-!
# Requests and responses

## Main definitions

* `Request`, `Labelled`: a request, alone and with the label that tells it from others.
* `Response`: a response, with the request it answers. Its headers stand in the order in which they
  are listed, so what is read from a response is determined by the response.
-/

namespace ScenarioSuite.Http

/-- A request. -/
structure Request where
  method : Method
  url : String
  headers : Dict String
  body : Option String
deriving DecidableEq

namespace Request

/-- A request without headers and body. -/
def ofUrl (method : Method) (url : String) : Request :=
  ⟨method, url, Dict.empty, none⟩

/-- The request with one more header. -/
def addHeader (r : Request) (name value : String) : Request :=
  { r with headers := r.headers.insert name value }

/-- The request with a body. -/
def setBody (r : Request) (body : String) : Request :=
  { r with body := some body }

/-- The value of a header. -/
def header? (r : Request) (name : String) : Option String :=
  Http.header? r.headers.entries name

/-- The type of the body, as the request declares it. -/
def contentType? (r : Request) : Option String :=
  r.header? "content-type"

/-- Whether the request has a body that is not empty. -/
def hasBody (r : Request) : Bool :=
  match r.body with
  | some body => !body.isEmpty
  | none => false

/-- The members of the request in JSON. -/
def members (r : Request) : List (String × Json) :=
  [("method", .string r.method.name), ("url", .string r.url),
   ("headers", .ofDict r.headers), ("body", .ofString? r.body)]

end Request

/-- A request under a label. -/
structure Labelled where
  id : String
  request : Request
deriving DecidableEq

namespace Labelled

/-- The request and its label in JSON. -/
def toJson (l : Labelled) : Json :=
  Json.objectOf (("id", .string l.id) :: l.request.members)

/-- How a request and its label are read. -/
def schema : Schema Labelled :=
  .record "HttpRequest"
    (.cons "id" .text .refused <|
     .cons "method" (.name Method.named) .refused <|
     .cons "url" .text .refused <|
     .cons "headers" (.dict .text) .refused <|
     .cons "body" (.optional .text) (.allowed none) .nil)
    fun (id, method, url, headers, body, ()) => ⟨id, ⟨method, url, headers, body⟩⟩

end Labelled

/-- A response. -/
structure Response where
  status : Nat
  statusText : String
  headers : Headers
  body : List UInt8
  elapsed : Duration
  request : Labelled
deriving DecidableEq

namespace Response

/-- A response without headers and body. -/
def ofStatus (status : Nat) (statusText : String) (request : Labelled) : Response :=
  ⟨status, statusText, Headers.empty, [], Duration.zero, request⟩

/-- The response with one more header. -/
def addHeader (r : Response) (name value : String) : Response :=
  { r with headers := r.headers.insert name value }

/-- A response with the JSON value as its body. -/
def ofJson (status : Nat) (body : Json) (request : Labelled) : Response :=
  let r := (ofStatus status (reason status) request).addHeader "Content-Type" "application/json"
  { r with body := Text.Utf8.encode body.render }

/-- Whether the status says that the request was served. -/
def isSuccess (r : Response) : Bool :=
  200 ≤ r.status && r.status < 300

/-- The value of a header. -/
def header? (r : Response) (name : String) : Option String :=
  Http.header? r.headers.entries name

/-- The type of the body, as the response declares it. -/
def contentType? (r : Response) : Option String :=
  r.header? "content-type"

/-- The body as a text. -/
def text (r : Response) : Except Text.Utf8.Error String :=
  Text.Utf8.decode r.body

/-- The body as a text, with a mark for what is no character. -/
def textLossy (r : Response) : String :=
  Text.Utf8.decodeLossy r.body

/-- The body as JSON. -/
def json (r : Response) : Except Json.Error Json :=
  Json.parseBytes r.body

/-- The response in JSON, its body as a list of bytes. -/
def toJson (r : Response) : Json :=
  Json.objectOf
    [("status_code", .ofNat r.status), ("status_text", .string r.statusText),
     ("headers", .ofDict r.headers.toDict), ("body", .array (r.body.map fun b => .ofNat b.toNat)),
     ("duration", r.elapsed.toJson), ("request", r.request.toJson)]

end Response

end ScenarioSuite.Http
