import ScenarioSuite.Capture.Selector

/-!
# Capture directives

A directive `name = path` says that a variable is to have the value at a place in the response.
The path ends with the text and holds no line break.

## Main definitions

* `Directive`: a variable and a selector.
* `Directive.parse`, `Directive.text`: reading and writing.
-/

namespace ScenarioSuite.Capture

/-- A variable and the place in the response that it gets its value from. -/
structure Directive where
  variableName : String
  selector : Selector
deriving Repr, DecidableEq

namespace Directive

/-- Why a text is no directive. -/
inductive Error where
  /-- The text has not the form of a directive. -/
  | malformed (text : String)
  /-- The selector cannot be used. -/
  | badSelector (selector : Selector)
deriving Repr, DecidableEq

/-- The error in words. -/
def Error.message : Error → String
  | .malformed text =>
    "Invalid syntax: Capture directive must look like 'name = path', got '" ++ text ++ "'"
  | .badSelector selector => "Invalid syntax: Invalid capture path '" ++ selector.text ++ "'"

/-- A character that a variable's name can begin with. -/
def isNameStart (c : Char) : Bool :=
  c.isAlpha || c == '_'

/-- A character of a variable's name. -/
def isNameChar (c : Char) : Bool :=
  c.isAlphanum || c == '_'

/-- The name in front of the equals sign, with what stands behind the sign. -/
def split? (text : List Char) : Option (List Char × List Char) :=
  match text.dropWhile Text.isBlank with
  | [] => none
  | c :: rest =>
    if !isNameStart c then none
    else match (rest.dropWhile isNameChar).dropWhile Text.isBlank with
      | '=' :: behind => some (c :: rest.takeWhile isNameChar, behind)
      | _ => none

/-- What is taken for the path behind the equals sign: what stands between the blanks around it, if
that has no line break. Where there are only blanks it is the last one that is no line break. -/
def path? (behind : List Char) : Option (List Char) :=
  match Text.dropAround Text.isBlank behind with
  | [] => (behind.reverse.find? (· != '\n')).map ([·])
  | c :: rest => if '\n' ∈ c :: rest then none else some (c :: rest)

/-- The directive that a text spells. -/
def parse (text : String) : Except Error Directive :=
  match split? text.toList with
  | none => .error (.malformed (Text.trim text))
  | some (variableName, behind) =>
    match path? behind with
    | none => .error (.malformed (Text.trim text))
    | some path =>
      let selector := Selector.ofText (String.ofList path)
      if selector.isValid then .ok ⟨String.ofList variableName, selector⟩
      else .error (.badSelector selector)

/-- The text of a directive. -/
def text (d : Directive) : String :=
  d.variableName ++ " = " ++ d.selector.text

/-- The directive with its parts, for inspection. -/
def inspect (d : Directive) : String :=
  "CaptureDirective \x7b variable_name: " ++ Text.quoteInMessage d.variableName ++ ", path: " ++
    d.selector.inspect ++ " \x7d"

end Directive

end ScenarioSuite.Capture
