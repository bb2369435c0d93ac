import ScenarioSuite.Capture.Selector
import ScenarioSuite.Http.Message

/-!
# Extraction

A selector extracts a text from a response: a header as it stands, a text of the body without its
quotes, any other value of the body as JSON. Null counts as missing.
-/

namespace ScenarioSuite.Capture

/-- Why a selector finds nothing. -/
inductive ExtractionError where
  | missingField (path : String)
  | missingHeader (name : String)
  | badBody (message : String)
deriving Repr, DecidableEq

/-- The error in words. -/
def ExtractionError.message : ExtractionError → String
  | .missingField path => "field '" ++ path ++ "' not found in response body"
  | .missingHeader name => "header '" ++ name ++ "' not found in response"
  | .badBody message => "response body is not valid JSON: " ++ message

/-- The text at a path of a value. -/
def extractFrom (body : Json) (path : String) : Except ExtractionError String :=
  match body.at? path with
  | none | some .null => .error (.missingField path)
  | some value => .ok value.plain

/-- The text that a selector finds in a response. -/
def extract (response : Http.Response) : Selector → Except ExtractionError String
  | .header name =>
    match response.header? name with
    | some value => .ok value
    | none => .error (.missingHeader name)
  | .body path =>
    match response.json with
    | .error e => .error (.badBody e.message)
    | .ok body => extractFrom body path

end ScenarioSuite.Capture
