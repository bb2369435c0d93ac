import ScenarioSuite.Http.Message
import ScenarioSuite.Template.Substitution

/-!
# Request templates

A request is rendered from a template with the values of a store. A relative address, one that
begins with a slash, stands behind the value of the base variable. The order of rendering is fixed,
so the first variable without a value is known: the base variable, the address, each header in the
order of the unrendered names, name first, and the body.

## Main definitions

* `RequestTemplate`, `BodyTemplate`.
* `RequestTemplate.render`: the request, or the first variable without a value.
* `RequestTemplate.references`: the variables in the order of rendering.

## Main statements

* `RequestTemplate.renderListed_eq_render`: the order in which headers are listed does not matter.
-/

namespace ScenarioSuite.Scenario

open Template (substitute substituteJson placeholders)

/-- The template of a body. -/
inductive BodyTemplate where
  | text (template : String)
  | json (value : Json)

namespace BodyTemplate

/-- The body with values in place of placeholders. -/
def render (store : Store) : BodyTemplate → Except Unbound String
  | .text template => substitute store template
  | .json value => Json.render <$> substituteJson store value

/-- The variables in the order of rendering. -/
def references : BodyTemplate → List String
  | .text template => placeholders template
  | .json value => Template.references value

/-- The template in JSON. -/
def toJson : BodyTemplate → Json
  | .text template => .string template
  | .json value => value

/-- How a body is read: as a text if it is one, else as JSON. -/
def schema : Schema BodyTemplate := .textOr "BodyTemplate" .text .json

end BodyTemplate

/-- The template of a request. -/
structure RequestTemplate where
  method : Http.Method
  url : String
  headers : Dict String
  body : Option BodyTemplate

namespace RequestTemplate

/-- A template without headers and body. -/
def ofUrl (method : Http.Method) (url : String) : RequestTemplate :=
  ⟨method, url, Dict.empty, none⟩

/-- The template with one more header. -/
def withHeader (t : RequestTemplate) (name value : String) : RequestTemplate :=
  { t with headers := t.headers.insert name value }

/-- The template with a body. -/
def withBody (t : RequestTemplate) (body : BodyTemplate) : RequestTemplate :=
  { t with body := some body }

/-- Whether an address is relative to the base variable. -/
def isRelative (url : String) : Bool :=
  url.toList.head? == some '/'

/-- The value of the base variable, ready to have a path put behind it. -/
def baseOf (value : String) : String :=
  String.ofList (Text.dropEndWhile (· == '/') value.toList)

/-- The address that a template without blanks around it gives. -/
def renderTrimmedUrl (store : Store) (base url : String) : Except Unbound String :=
  if isRelative url then do
    let value ← store.get base
    let path ← substitute store url
    return baseOf value ++ path
  else substitute store url

/-- The address that a template gives. -/
def renderUrl (store : Store) (base url : String) : Except Unbound String :=
  renderTrimmedUrl store base (Text.trim url)

/-- Headers with names and values rendered; of two that come to one name the later counts. -/
def renderHeaders (store : Store) : List (String × String) → Dict String →
    Except Unbound (Dict String)
  | [], headers => .ok headers
  | (name, value) :: rest, headers => do
    let name ← substitute store name
    let value ← substitute store value
    renderHeaders store rest (headers.insert name value)

/-- The request that a template gives when its headers are listed in some order. They are put in the
order of their names first. -/
def renderListed (t : RequestTemplate) (listing : List (String × String)) (store : Store)
    (base : String) : Except Unbound Http.Request := do
  let url ← renderUrl store base t.url
  let headers ← renderHeaders store (Bindings.ofList listing) Dict.empty
  let body ← match t.body with
    | some body => some <$> body.render store
    | none => pure none
  return ⟨t.method, url, headers, body⟩

/-- The request that a template gives. -/
def render (t : RequestTemplate) (store : Store) (base : String) : Except Unbound Http.Request :=
  t.renderListed t.headers.entries store base

/-- In whatever order its headers are listed, a template gives the same request. -/
theorem renderListed_eq_render {t : RequestTemplate} {listing : List (String × String)}
    (perm : t.headers.entries.Perm listing) (store : Store) (base : String) :
    t.renderListed listing store base = t.render store base := by
  rw [render, renderListed, renderListed, t.headers.ordered.ofList_eq_of_perm perm,
    t.headers.ordered.ofList_eq]

/-- The headers of a template are rendered as they are kept, in the order of their names. -/
theorem render_eq (t : RequestTemplate) (store : Store) (base : String) :
    t.render store base = do
      let url ← renderUrl store base t.url
      let headers ← renderHeaders store t.headers.entries Dict.empty
      let body ← match t.body with
        | some body => some <$> body.render store
        | none => pure none
      return ⟨t.method, url, headers, body⟩ := by
  rw [render, renderListed, t.headers.ordered.ofList_eq]

/-- The variables in the order of rendering. -/
def references (t : RequestTemplate) (base : String) : List String :=
  let url := Text.trim t.url
  (if isRelative url then [base] else []) ++ placeholders url ++
    t.headers.entries.flatMap (fun entry => placeholders entry.1 ++ placeholders entry.2) ++
    match t.body with
    | some body => body.references
    | none => []

/-- The template in JSON; without a body there is no member for it. -/
def toJson (t : RequestTemplate) : Json :=
  Json.objectOf <|
    [("method", .string t.method.name), ("url", .string t.url), ("headers", .ofDict t.headers)] ++
    match t.body with
    | some body => [("body", body.toJson)]
    | none => []

/-- How a template is read. -/
def schema : Schema RequestTemplate :=
  .record "RequestTemplate"
    (.cons "method" (.name Http.Method.named) .refused <|
     .cons "url" .text .refused <|
     .cons "headers" (.dict .text) (.standard Dict.empty) <|
     .cons "body" (.optional BodyTemplate.schema) (.standard none) .nil)
    fun (method, url, headers, body, ()) => ⟨method, url, headers, body⟩

end RequestTemplate

end ScenarioSuite.Scenario
