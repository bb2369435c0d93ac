import ScenarioSuite.Capture.Selector
import ScenarioSuite.Http.Message

/-!
# Assertions

An assertion is checked against a response. A check that fails says what was wanted and what was
there.

## Main definitions

* `Assertion`, `Assertion.describe`.
* `Assertion.check`: nothing, or an `AssertionFailure`.
-/

namespace ScenarioSuite.Scenario

/-- What is to hold of a response. -/
inductive Assertion where
  /-- The status code. -/
  | statusEquals (status : Nat)
  /-- The body has a value at the path. -/
  | hasProperty (path : String)
  /-- The body has this value at the path. -/
  | propertyEquals (path : String) (value : Json)
  /-- The value of a header. -/
  | headerEquals (name value : String)

/-- A check that failed. -/
structure AssertionFailure where
  assertion : String
  expected : String
  actual : String
deriving Repr, DecidableEq

namespace AssertionFailure

/-- The failure in words. -/
def message (f : AssertionFailure) : String :=
  f.assertion ++ ": expected " ++ f.expected ++ ", got " ++ f.actual

/-- The failure in JSON, its parts in the order of the message. -/
def toJson (f : AssertionFailure) : Json :=
  .object [("assertion", .string f.assertion), ("expected", .string f.expected),
    ("actual", .string f.actual)]

end AssertionFailure

namespace Assertion

/-- The assertion in words. -/
def describe : Assertion → String
  | .statusEquals status => "status == " ++ toString status
  | .hasProperty path => "has property " ++ path
  | .propertyEquals path value => path ++ " == " ++ value.render
  | .headerEquals name value => "header " ++ name ++ " == " ++ value

/-- The path of the body that an assertion's path stands for. -/
def pathOf (path : String) : String :=
  (Selector.ofText path).text

/-- The media type of a header's value: what stands in front of the parameters. -/
def mediaType (value : String) : String :=
  Text.trim (String.ofList (value.toList.takeWhile (· != ';')))

/-- Whether a header has the value wanted. Case does not matter, and parameters count only when
the value wanted has some. -/
def headerMatches (actual expected : String) : Bool :=
  let actual := Text.trim actual
  let expected := Text.trim expected
  Text.sameFold actual expected ||
    (!expected.toList.contains ';' && Text.sameFold (mediaType actual) expected)

/-- The failure of a check. -/
def fail (a : Assertion) (expected actual : String) : AssertionFailure :=
  ⟨a.describe, expected, actual⟩

/-- Checks what the body has at a path. -/
def checkProperty (a : Assertion) (response : Http.Response) (path : String)
    (judge : Option Json → Option AssertionFailure) : Option AssertionFailure :=
  match response.json with
  | .error e => some (a.fail "a JSON body" ("invalid JSON (" ++ e.message ++ ")"))
  | .ok body => judge (body.at? (pathOf path))

/-- The failure of the assertion on a response, if it fails. -/
def check (a : Assertion) (response : Http.Response) : Option AssertionFailure :=
  match a with
  | .statusEquals status =>
    if response.status = status then none
    else some (a.fail (toString status) (toString response.status ++ " " ++ response.statusText))
  | .hasProperty path =>
    a.checkProperty response path fun
      | some _ => none
      | none => some (a.fail ("property " ++ path) "no such property")
  | .propertyEquals path value =>
    a.checkProperty response path fun
      | some actual => if actual.same value then none else some (a.fail value.render actual.render)
      | none => some (a.fail value.render "no such property")
  | .headerEquals name value =>
    match response.header? name with
    | some actual => if headerMatches actual value then none else some (a.fail value actual)
    | none => some (a.fail value "header not present")

end Assertion

end ScenarioSuite.Scenario
