/-!
# Places in a YAML text

A text is read from left to right. The column decides on the structure of block style, so the
cursor counts characters on the line and lines.

## Main definitions

* `isBlank`, `isBreak`, `isBreakOrEnd`, `isBlankOrEnd`: classes of characters ahead.
* `Cursor`: what is left of a text, and the place reached.
* `Cursor.skip`, `Cursor.takeBreak`: steps on a line, and to the next one.
-/

namespace ScenarioSuite.Yaml

/-- Spaces and tabs. -/
def isBlank (c : Char) : Bool :=
  c == ' ' || c == '\t'

/-- Characters that end a line. -/
def isBreak (c : Char) : Bool :=
  c == '\n' || c == '\r' || c == '\u0085' || c == '\u2028' || c == '\u2029'

/-- Letters, digits, hyphens and underscores. -/
def isWord (c : Char) : Bool :=
  c.isAlphanum || c == '-' || c == '_'

/-- Characters that a text may hold. -/
def isAllowed (c : Char) : Bool :=
  let n := c.toNat
  n == 9 || n == 10 || n == 13 || (0x20 ≤ n && n ≤ 0x7E) || n == 0x85 ||
    (0xA0 ≤ n && n ≤ 0xFFFD) || 0x10000 ≤ n

/-- Characters that are neither blank nor end a line. -/
def isSolid (c : Char) : Bool :=
  !isBlank c && !isBreak c

/-- Whether a line ends here. -/
def isBreakOrEnd : List Char → Bool
  | [] => true
  | c :: _ => isBreak c

/-- Whether a blank or the end of a line stands here. -/
def isBlankOrEnd : List Char → Bool
  | [] => true
  | c :: _ => !isSolid c

/-- Whether a marker that begins or ends a document stands here. -/
def isMarker : List Char → Bool
  | '-' :: '-' :: '-' :: rest => isBlankOrEnd rest
  | '.' :: '.' :: '.' :: rest => isBlankOrEnd rest
  | _ => false

/-- What is left of a text, and the place reached. -/
structure Cursor where
  rest : List Char
  index : Nat
  line : Nat
  column : Nat
deriving Repr

namespace Cursor

/-- The beginning of a text. -/
def start (text : List Char) : Cursor := ⟨text, 0, 0, 0⟩

/-- The cursor so many characters further on the line. -/
def skip (c : Cursor) (count : Nat) : Cursor :=
  ⟨c.rest.drop count, c.index + count, c.line, c.column + count⟩

/-- The cursor where a rest of the line begins. -/
def skipTo (c : Cursor) (rest : List Char) : Cursor :=
  let count := c.rest.length - rest.length
  ⟨rest, c.index + count, c.line, c.column + count⟩

/-- The characters of the line as far as they satisfy `p`, and the cursor behind them. -/
def span (c : Cursor) (p : Char → Bool) : List Char × Cursor :=
  let run := c.rest.takeWhile p
  (run, ⟨c.rest.dropWhile p, c.index + run.length, c.line, c.column + run.length⟩)

/-- The cursor behind the characters that satisfy `p`. -/
def skipWhile (c : Cursor) (p : Char → Bool) : Cursor :=
  (c.span p).2

/-- The cursor on the next line, so many characters further. -/
def nextLine (c : Cursor) (rest : List Char) (count : Nat) : Cursor :=
  ⟨rest, c.index + count, c.line + 1, 0⟩

/-- Takes the end of a line, and what it stands for in a scalar. -/
def takeBreak (c : Cursor) : List Char × Cursor :=
  match c.rest with
  | '\r' :: '\n' :: rest => (['\n'], c.nextLine rest 2)
  | '\u2028' :: rest => (['\u2028'], c.nextLine rest 1)
  | '\u2029' :: rest => (['\u2029'], c.nextLine rest 1)
  | b :: rest => if isBreak b then (['\n'], c.nextLine rest 1) else ([], c)
  | [] => ([], c)

/-- The cursor behind the end of a line. -/
def skipBreak (c : Cursor) : Cursor :=
  c.takeBreak.2

/-- Whether a marker of a document stands here, at the beginning of a line. -/
def isAtMarker (c : Cursor) : Bool :=
  c.column == 0 && isMarker c.rest

/-- The cursor behind the blanks, a comment and the end of the line, if there is nothing else. -/
def endLine? (c : Cursor) : Option Cursor :=
  let c := c.skipWhile isBlank
  let c := if c.rest.head? == some '#' then c.skipWhile (fun d => !isBreak d) else c
  if isBreakOrEnd c.rest then some c.skipBreak else none

end Cursor

end ScenarioSuite.Yaml
