import ScenarioSuite.Text.Utf8
import ScenarioSuite.Json.Decode

/-!
# Places in a JSON text

A JSON text is read from left to right with one symbol of look-ahead. Errors name the line and the
column, which counts bytes. A mismatch with a schema is raised without a place and gets one from
the value that it concerns.

## Main definitions

* `Cursor`: what is left of a text, and the place reached.
* `Json.Error`: a cause and a place.
* `Reader`: a step over the text.
-/

namespace ScenarioSuite.Json

open Text.Utf8 (Symbol)

/-- A line, counted from one, and the number of bytes read on it. -/
structure Position where
  line : Nat
  column : Nat
deriving Repr, DecidableEq

/-- The place after a symbol. -/
def Position.after (p : Position) (s : Symbol) : Position :=
  if s = .char '\n' then ⟨p.line + 1, 0⟩ else ⟨p.line, p.column + s.size⟩

/-- What is left of a text, and the place reached. -/
structure Cursor where
  rest : List Symbol
  position : Position
deriving Repr

/-- The beginning of a text. -/
def Cursor.start (symbols : List Symbol) : Cursor := ⟨symbols, ⟨1, 0⟩⟩

/-- The place of the byte ahead. -/
def Cursor.ahead (c : Cursor) : Position :=
  match c.rest with
  | [] => c.position
  | .char '\n' :: _ => ⟨c.position.line + 1, 0⟩
  | _ :: _ => ⟨c.position.line, c.position.column + 1⟩

/-- The cursor behind the next symbol. -/
def Cursor.tail (c : Cursor) : Cursor :=
  match c.rest with
  | [] => c
  | s :: rest => ⟨rest, c.position.after s⟩

/-- The cursor behind so many bytes, if there are so many. A character cut by the count is gone. -/
def Cursor.dropBytes? (c : Cursor) (count : Nat) : Option Cursor :=
  go c.rest c.position count
where
  go : List Symbol → Position → Nat → Option Cursor
  | rest, p, 0 => some ⟨rest, p⟩
  | [], _, _ + 1 => none
  | s :: rest, p, n + 1 =>
    if s.size ≤ n + 1 then go rest (p.after s) (n + 1 - s.size)
    else some ⟨rest, ⟨p.line, p.column + n + 1⟩⟩

/-- The cursor behind everything. -/
def Cursor.last (c : Cursor) : Cursor :=
  ⟨[], c.rest.foldl Position.after c.position⟩

/-- The blanks of JSON. -/
def isSpace (c : Char) : Bool :=
  c == ' ' || c == '\n' || c == '\t' || c == '\r'

/-- The cursor behind the blanks. -/
def Cursor.dropSpaces (c : Cursor) : Cursor :=
  go c.rest c.position
where
  go : List Symbol → Position → Cursor
  | .char c :: rest, p => if isSpace c then go rest (p.after (.char c)) else ⟨.char c :: rest, p⟩
  | rest, p => ⟨rest, p⟩

/-- Why a text is refused. -/
inductive Cause where
  | endInList
  | endInObject
  | endInString
  | endInValue
  | wantedColon
  | wantedListEnd
  | wantedObjectEnd
  | wantedWord
  | wantedValue
  | badEscape
  | badNumber
  | numberOutOfRange
  | badCodePoint
  | controlCharacter
  | keyNotString
  | loneSurrogate
  | trailingComma
  | trailingCharacters
  | endInSurrogates
  | tooDeep
  /-- The text is JSON up to here, and does not fit the schema. -/
  | mismatch (m : Schema.Mismatch)

/-- A cause in words. -/
def Cause.message : Cause → String
  | .endInList => "EOF while parsing a list"
  | .endInObject => "EOF while parsing an object"
  | .endInString => "EOF while parsing a string"
  | .endInValue => "EOF while parsing a value"
  | .wantedColon => "expected `:`"
  | .wantedListEnd => "expected `,` or `]`"
  | .wantedObjectEnd => "expected `,` or `\x7d`"
  | .wantedWord => "expected ident"
  | .wantedValue => "expected value"
  | .badEscape => "invalid escape"
  | .badNumber => "invalid number"
  | .numberOutOfRange => "number out of range"
  | .badCodePoint => "invalid unicode code point"
  | .controlCharacter => "control character (\\u0000-\\u001F) found while parsing a string"
  | .keyNotString => "key must be a string"
  | .loneSurrogate => "lone leading surrogate in hex escape"
  | .trailingComma => "trailing comma"
  | .trailingCharacters => "trailing characters"
  | .endInSurrogates => "unexpected end of hex escape"
  | .tooDeep => "recursion limit exceeded"
  | .mismatch m => m.message wording

/-- A cause and, where there is a text, a place. -/
structure Error where
  cause : Cause
  place : Option Position

/-- The error at a place, if it has none. -/
def Error.locate (e : Error) (p : Position) : Error :=
  { e with place := some (e.place.getD p) }

/-- An error in words. -/
def Error.message (e : Error) : String :=
  match e.place with
  | none => e.cause.message
  | some p => e.cause.message ++ " at line " ++ toString p.line ++ " column " ++ toString p.column

/-- A step over the text. The cursor of a failed step stands where it failed. -/
abbrev Reader := EStateM Error Cursor

namespace Reader

variable {α : Type}

/-- Fails at the place reached. -/
def fail (cause : Cause) : Reader α := fun c => .error ⟨cause, some c.position⟩ c

/-- Fails at the byte ahead. -/
def failAhead (cause : Cause) : Reader α := fun c => .error ⟨cause, some c.ahead⟩ c

/-- Fails at the end of so many bytes ahead, or at the end of the text. -/
def failBehind (count : Nat) (cause : Cause) : Reader α := fun c =>
  let c := (c.dropBytes? count).getD c.last
  .error ⟨cause, some c.position⟩ c

/-- Fails with a mismatch that has no place yet. -/
def mismatch (m : Schema.Mismatch) : Reader α := fun c => .error ⟨.mismatch m, none⟩ c

/-- Gives an error without a place the place reached. -/
def located (r : Reader α) : Reader α := fun c =>
  match r c with
  | .ok a c => .ok a c
  | .error e c => .error (e.locate c.position) c

/-- The result of a check, or its mismatch without a place. -/
def ofCheck : Except Schema.Mismatch α → Reader α
  | .ok a => pure a
  | .error m => mismatch m

/-- The next symbol, not taken. -/
def peek : Reader (Option Symbol) := fun c => .ok c.rest.head? c

/-- The next symbol behind the blanks, not taken. -/
def peekItem : Reader (Option Symbol) := fun c =>
  let c := c.dropSpaces
  .ok c.rest.head? c

/-- Takes the next symbol. -/
def skip : Reader Unit := fun c => .ok () c.tail

/-- The number of symbols left, and one more. -/
def fuel : Reader Nat := fun c => .ok (c.rest.length + 1) c

end Reader

end ScenarioSuite.Json
