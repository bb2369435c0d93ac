import ScenarioSuite.Scenario.Run

/-!
# Definitions of scenarios

A definition is what the file of a scenario holds. Its name may be missing, in which case the
scenario takes another one.

## Main definitions

* `Definition`, `Definition.schema`, `Definition.toJson`.
* `Definition.scenario`: the scenario that a definition describes.
-/

namespace ScenarioSuite.Scenario

open Capture (Directive)

/-- The value that the body is to have at a path. -/
structure PropertyExpectation where
  path : String
  value : Json

/-- The value that a header is to have. -/
structure HeaderExpectation where
  name : String
  value : String
deriving Repr, DecidableEq

/-- What a definition expects of the response. -/
structure Expectations where
  status : Option Nat
  properties : List String
  equals : List PropertyExpectation
  headers : List HeaderExpectation

/-- What the file of a scenario holds. -/
structure Definition where
  name : Option String
  request : RequestTemplate
  expect : Expectations
  capture : List Directive

namespace PropertyExpectation

/-- How the value of a path is read. -/
def schema : Schema PropertyExpectation :=
  .record "PropertyExpectation"
    (.cons "path" .text .refused <| .cons "value" .json .refused .nil)
    fun (path, value, ()) => ⟨path, value⟩

/-- The expectation in JSON. -/
def toJson (e : PropertyExpectation) : Json :=
  Json.objectOf [("path", .string e.path), ("value", e.value)]

end PropertyExpectation

namespace HeaderExpectation

/-- How the value of a header is read. -/
def schema : Schema HeaderExpectation :=
  .record "HeaderExpectation"
    (.cons "name" .text .refused <| .cons "value" .text .refused .nil)
    fun (name, value, ()) => ⟨name, value⟩

/-- The expectation in JSON. -/
def toJson (e : HeaderExpectation) : Json :=
  Json.objectOf [("name", .string e.name), ("value", .string e.value)]

end HeaderExpectation

namespace Expectations

/-- Nothing is expected. -/
def none : Expectations := ⟨.none, [], [], []⟩

/-- How expectations are read. -/
def schema : Schema Expectations :=
  .record "Expectations"
    (.cons "status" (.optional (.natural 16)) (.standard .none) <|
     .cons "properties" (.list .text) (.standard []) <|
     .cons "equals" (.list PropertyExpectation.schema) (.standard []) <|
     .cons "headers" (.list HeaderExpectation.schema) (.standard []) .nil)
    fun (status, properties, equals, headers, ()) => ⟨status, properties, equals, headers⟩

/-- The expectations in JSON. -/
def toJson (e : Expectations) : Json :=
  Json.objectOf
    [("status", match e.status with
       | some status => .ofNat status
       | .none => .null),
     ("properties", .array (e.properties.map .string)),
     ("equals", .array (e.equals.map (·.toJson))),
     ("headers", .array (e.headers.map (·.toJson)))]

/-- The assertions in order: status, properties, their values, headers. -/
def assertions (e : Expectations) : List Assertion :=
  e.status.toList.map .statusEquals ++ e.properties.map .hasProperty ++
    e.equals.map (fun p => .propertyEquals p.path p.value) ++
    e.headers.map (fun h => .headerEquals h.name h.value)

end Expectations

namespace Definition

/-- How a directive is read: as a text that spells one. -/
def directiveSchema : Schema Directive :=
  .checked fun text =>
    match Directive.parse text with
    | .ok directive => .ok directive
    | .error e => .error e.message

/-- How a definition is read. -/
def schema : Schema Definition :=
  .record "ScenarioDefinition"
    (.cons "name" (.optional .text) (.standard none) <|
     .cons "request" RequestTemplate.schema .refused <|
     .cons "expect" Expectations.schema (.standard .none) <|
     .cons "capture" (.list directiveSchema) (.standard []) .nil)
    fun (name, request, expect, capture, ()) => ⟨name, request, expect, capture⟩

/-- The definition in JSON. -/
def toJson (d : Definition) : Json :=
  Json.objectOf
    [("name", .ofString? d.name), ("request", d.request.toJson), ("expect", d.expect.toJson),
     ("capture", .array (d.capture.map fun directive => .string directive.text))]

/-- The name of the scenario: that of the definition unless it is missing or blank. -/
def nameOr (d : Definition) (fallback : String) : String :=
  match d.name with
  | some name => if Text.isAllBlank name then fallback else name
  | none => fallback

/-- The teardown: the captures, if there are any. -/
def teardown (d : Definition) : Teardown :=
  if d.capture.isEmpty then .none else .captures d.capture

/-- The scenario that a definition describes. -/
def scenario (d : Definition) (fallback : String) : Scenario :=
  ⟨d.nameOr fallback, d.request, d.expect.assertions, d.teardown⟩

end Definition

end ScenarioSuite.Scenario
