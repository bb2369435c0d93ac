import ScenarioSuite.Json.Basic
import ScenarioSuite.Decimal.Notation

/-!
# Writing JSON

## Main definitions

* `Json.render`: the text on one line without blanks.
* `Json.renderIndented`: the text with one item a line and two blanks per level.
* `Json.quote`: a text in quotes.
-/

namespace ScenarioSuite.Json

/-- A real number is written positionally while its first digit stands at most five places behind
and at most fifteen before the units. -/
def positionalRange : Decimal.Range := ⟨-5, 15⟩

/-- The text of a number. -/
def Number.render : Number → String
  | .integer value => toString value
  | .real value => Decimal.write (some positionalRange) value

/-- A character inside quotes. Quotes, backslashes and control characters are escaped, the latter
by a letter where there is one. -/
def escape (c : Char) : List Char :=
  if c = '"' then ['\\', '"']
  else if c = '\\' then ['\\', '\\']
  else if c = '\n' then ['\\', 'n']
  else if c = '\r' then ['\\', 'r']
  else if c = '\t' then ['\\', 't']
  else if c.toNat = 8 then ['\\', 'b']
  else if c.toNat = 12 then ['\\', 'f']
  else if c.toNat < 32 then
    ['\\', 'u', '0', '0', Nat.digitChar (c.toNat / 16), Nat.digitChar (c.toNat % 16)]
  else [c]

/-- A text in quotes. -/
def quoteChars (cs : List Char) : List Char :=
  '"' :: cs.flatMap escape ++ ['"']

/-- A text in quotes. -/
def quote (s : String) : String :=
  String.ofList (quoteChars s.toList)

mutual

/-- The text of a value on one line. -/
def renderChars : Json → List Char
  | .null => ['n', 'u', 'l', 'l']
  | .bool true => ['t', 'r', 'u', 'e']
  | .bool false => ['f', 'a', 'l', 's', 'e']
  | .number n => n.render.toList
  | .string s => quoteChars s.toList
  | .array items => '[' :: renderItems items ++ [']']
  | .object members => '{' :: renderMembers members ++ ['}']

/-- The items of an array, parted by commas. -/
def renderItems : List Json → List Char
  | [] => []
  | [item] => renderChars item
  | item :: rest => renderChars item ++ ',' :: renderItems rest

/-- The members of an object, parted by commas. -/
def renderMembers : List (String × Json) → List Char
  | [] => []
  | [(name, value)] => quoteChars name.toList ++ ':' :: renderChars value
  | (name, value) :: rest =>
    quoteChars name.toList ++ ':' :: renderChars value ++ ',' :: renderMembers rest

end

/-- The text of a value on one line. -/
def render (v : Json) : String :=
  String.ofList (renderChars v)

/-- A new line at a level. -/
def newLine (level : Nat) : List Char :=
  '\n' :: List.replicate (2 * level) ' '

mutual

/-- The text of a value that stands at a level. -/
def indentedChars (level : Nat) : Json → List Char
  | .array [] => ['[', ']']
  | .array items => '[' :: indentedItems (level + 1) items ++ newLine level ++ [']']
  | .object [] => ['{', '}']
  | .object members => '{' :: indentedMembers (level + 1) members ++ newLine level ++ ['}']
  | .null => ['n', 'u', 'l', 'l']
  | .bool true => ['t', 'r', 'u', 'e']
  | .bool false => ['f', 'a', 'l', 's', 'e']
  | .number n => n.render.toList
  | .string s => quoteChars s.toList

/-- The items of an array, each on lines of its own. -/
def indentedItems (level : Nat) : List Json → List Char
  | [] => []
  | [item] => newLine level ++ indentedChars level item
  | item :: rest => newLine level ++ indentedChars level item ++ ',' :: indentedItems level rest

/-- The members of an object, each on lines of its own. -/
def indentedMembers (level : Nat) : List (String × Json) → List Char
  | [] => []
  | [(name, value)] =>
    newLine level ++ quoteChars name.toList ++ ':' :: ' ' :: indentedChars level value
  | (name, value) :: rest =>
    newLine level ++ quoteChars name.toList ++ ':' :: ' ' :: indentedChars level value ++
      ',' :: indentedMembers level rest

end

/-- The text of a value with one item a line. -/
def renderIndented (v : Json) : String :=
  String.ofList (indentedChars 0 v)

end ScenarioSuite.Json
