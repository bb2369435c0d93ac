import ScenarioSuite.Json.Path
import ScenarioSuite.Text.Fold
import ScenarioSuite.Text.Quoted

/-!
# Selectors

A selector says where in a response a value stands: at a path of the JSON body, or in a header.
The path is kept as a text that begins with a dollar sign; the sign may be left out in writing.

## Main definitions

* `Selector`: a place in a response.
* `Selector.ofText`, `Selector.text`: reading and writing.
* `Selector.isValid`: whether the path or the header name can be used.
-/

namespace ScenarioSuite

/-- A place in a response. -/
inductive Selector where
  /-- A path of the JSON body. -/
  | body (path : String)
  /-- A header. -/
  | header (name : String)
deriving Repr, DecidableEq

namespace Selector

/-- What a selector of a header begins with. -/
def headerMark : List Char := "headers.".toList

/-- The selector of a text without blanks around it. -/
def ofTrimmed (cs : List Char) : Selector :=
  if headerMark.isPrefixOf cs then
    .header (String.ofList (Text.dropAround Text.isBlank (cs.drop headerMark.length)))
  else match cs with
    | '$' :: _ => .body (String.ofList cs)
    | '[' :: _ => .body (String.ofList ('$' :: cs))
    | _ => .body (String.ofList ('$' :: '.' :: cs))

/-- The selector of a text. -/
def ofText (text : String) : Selector :=
  ofTrimmed (Text.dropAround Text.isBlank text.toList)

/-- The text of a selector. -/
def text : Selector → String
  | .body path => path
  | .header name => "headers." ++ name

/-- A character of a header name. -/
def isHeaderChar (c : Char) : Bool :=
  c.isAlphanum || c == '-' || c == '_'

/-- Whether a text can name a header. -/
def isHeaderName (name : String) : Bool :=
  !name.isEmpty && name.toList.all isHeaderChar

/-- Whether a selector can be used. -/
def isValid : Selector → Bool
  | .body path => Json.Path.isBalanced path
  | .header name => isHeaderName name

/-- The selector with its kind, for inspection. -/
def inspect : Selector → String
  | .body path => "JsonPath(" ++ Text.quoteInMessage path ++ ")"
  | .header name => "Header(" ++ Text.quoteInMessage name ++ ")"

end Selector

end ScenarioSuite
