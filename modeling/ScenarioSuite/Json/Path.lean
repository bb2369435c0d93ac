import ScenarioSuite.Json.Printer
import ScenarioSuite.Text.Blank

/-!
# Paths into JSON values

A path names a place in a JSON value by a list of steps. In a text, fields are parted by dots, and
brackets hold an index or a field, which may be quoted. A dollar sign in front stands for the whole
value.

## Main definitions

* `Path.Step`: one step, to a field of an object or to an index of an array.
* `Path.steps`: the steps that a text spells.
* `Json.follow?`: the value at the end of the steps.
* `Json.at?`: the value that a text leads to.
* `Path.isBalanced`: whether a text opens with a dollar sign and closes every bracket it opens.
-/

namespace ScenarioSuite.Json

namespace Path

/-- One step into a value. -/
inductive Step where
  | field (name : String)
  | index (n : Nat)
deriving Repr, DecidableEq

/-- The field of a run of characters; an empty run is no field. -/
def fieldOf (run : List Char) : List Step :=
  if run.isEmpty then [] else [.field (String.ofList run)]

/-- The digits of a decimal number below 2^64, with or without a plus sign. -/
def index? (cs : List Char) : Option Nat :=
  let digits := match cs with
    | '+' :: rest => rest
    | _ => cs
  if digits.isEmpty || !digits.all Char.isDigit then none
  else
    let n := digits.foldl (fun n c => n * 10 + (c.toNat - 48)) 0
    if n < Nat.pow 2 64 then some n else none

/-- Whether a character is a quote. -/
def isQuote (c : Char) : Bool :=
  c == '\'' || c == '"'

/-- The step that stands between brackets: an index, or a field without its quotes. -/
def bracketed (inside : List Char) : Step :=
  let inside := Text.dropAround Text.isBlank inside
  match index? inside with
  | some n => .index n
  | none => .field (String.ofList (Text.dropAround isQuote inside))

/-- Whether a character stands inside an opened bracket. -/
def isInside (c : Char) : Bool :=
  c != ']'

/-- The steps of a text, with the run of characters since the last dot or bracket in front of it. -/
def stepsFrom (run : List Char) : List Char → List Step
  | [] => fieldOf run
  | '.' :: rest => fieldOf run ++ stepsFrom [] rest
  | '[' :: rest =>
    fieldOf run ++ bracketed (rest.takeWhile isInside) ::
      stepsFrom [] ((rest.dropWhile isInside).drop 1)
  | c :: rest => stepsFrom (run ++ [c]) rest
termination_by cs => cs.length
decreasing_by
  all_goals simp only [List.length_cons, List.length_drop]
  · omega
  · have := (List.dropWhile_sublist (l := rest) isInside).length_le
    omega
  · omega

/-- The text without one character in front, if it stands there. -/
def dropOne (c : Char) : List Char → List Char
  | d :: rest => if d = c then rest else d :: rest
  | [] => []

/-- What of a path spells steps: not the blanks around it, nor a dollar sign and a dot in front. -/
def body (path : String) : List Char :=
  dropOne '.' (dropOne '$' (Text.dropAround Text.isBlank path.toList))

/-- The steps that a text spells. -/
def steps (path : String) : List Step :=
  stepsFrom [] (body path)

/-- Whether brackets close as they open, with so many open already. -/
def closes : Nat → List Char → Bool
  | depth, [] => depth == 0
  | depth, '[' :: rest => closes (depth + 1) rest
  | 0, ']' :: _ => false
  | depth + 1, ']' :: rest => closes depth rest
  | depth, _ :: rest => closes depth rest

/-- Whether a text opens with a dollar sign and its brackets match. -/
def isBalanced (path : String) : Bool :=
  path.toList.head? == some '$' && closes 0 path.toList

end Path

/-- The value that one step leads to. Only objects have fields, only arrays have indices. -/
def step? : Path.Step → Json → Option Json
  | .field name, v => v.member? name
  | .index n, v => v.item? n

/-- The value at the end of the steps. -/
def follow? : List Path.Step → Json → Option Json
  | [], v => some v
  | step :: rest, v => (step? step v).bind (follow? rest)

/-- The value that a path leads to. -/
def at? (v : Json) (path : String) : Option Json :=
  follow? (Path.steps path) v

/-- A value as a plain text: a text is itself, anything else its JSON. -/
def plain : Json → String
  | .string s => s
  | v => v.render

end ScenarioSuite.Json
