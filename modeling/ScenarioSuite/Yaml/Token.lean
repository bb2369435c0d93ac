import ScenarioSuite.Yaml.Tag
import ScenarioSuite.Yaml.Text.Block
import ScenarioSuite.Yaml.Text.Plain

/-!
# Tokens of YAML

The structure of block style is in the indentation. The lexer makes it explicit: it puts out a
token where a collection begins and where it ends. Whether a scalar is a key shows only when a
colon follows it, so the lexer remembers where a key may have begun, and puts the tokens in there
afterwards. A key is at most 1024 characters long and ends on its line.

## Main definitions

* `Token`: the tokens.
* `Lexer`: what has been read and what is pending.
* `Token.ofText`: the tokens of a text.
-/

namespace ScenarioSuite.Yaml

/-- How a scalar is written. -/
inductive Style where
  | plain
  | single
  | double
  | literal
  | folded
deriving Repr, DecidableEq

/-- A token. -/
inductive Token where
  | directive (d : Directive)
  | documentStart
  | documentEnd
  | blockSequenceStart
  | blockMappingStart
  | blockEnd
  | flowSequenceStart
  | flowSequenceEnd
  | flowMappingStart
  | flowMappingEnd
  | blockEntry
  | flowEntry
  | key
  | value
  | alias (name : String)
  | anchor (name : String)
  | tag (t : Tag)
  | scalar (style : Style) (text : String)
deriving Repr, DecidableEq

/-- A place where a key may have begun. -/
structure PendingKey where
  /-- Whether nothing but a key can stand there. -/
  required : Bool
  /-- The number of tokens in front of it. -/
  number : Nat
  place : Cursor
deriving Repr

/-- What has been read and what is pending. -/
structure Lexer where
  cursor : Cursor
  /-- The tokens so far, the last in front. -/
  tokens : List Token
  /-- The number of tokens so far. -/
  count : Nat
  /-- The columns of the open block collections, the innermost in front. -/
  indents : List Nat
  /-- The pending key of the innermost open flow collection, or of the block. -/
  pending : Option PendingKey
  /-- The pending keys of what is around it. -/
  outer : List (Option PendingKey)
  /-- Whether a key may begin here. -/
  keyAllowed : Bool

namespace Lexer

/-- Nothing has been read. -/
def start (text : List Char) : Lexer :=
  ⟨.start text, [], 0, [], none, [], true⟩

/-- Whether a flow collection is open. -/
def inFlow (l : Lexer) : Bool :=
  !l.outer.isEmpty

/-- Puts out a token and moves to a place. -/
def emit (l : Lexer) (t : Token) (c : Cursor) : Lexer :=
  { l with tokens := t :: l.tokens, count := l.count + 1, cursor := c }

/-- Puts a token in behind so many others. -/
def insertAt (l : Lexer) (number : Nat) (t : Token) : Lexer :=
  { l with tokens := l.tokens.insertIdx (l.count - number) t, count := l.count + 1 }

/-- Whether a column is deeper than the innermost block collection. -/
def isDeeper (l : Lexer) (column : Nat) : Bool :=
  match l.indents with
  | [] => true
  | indent :: _ => indent < column

/-- Opens a block collection at a column behind so many tokens, if the column is deeper than
those that are open. -/
def openBlock (l : Lexer) (column number : Nat) (t : Token) : Lexer :=
  if l.inFlow || !l.isDeeper column then l
  else { l.insertAt number t with indents := column :: l.indents }

/-- Closes the block collections in the list that `isOver` holds of, up to the first it does not. -/
def closeAll (isOver : Nat → Bool) : List Nat → Lexer → Lexer
  | [], l => { l with indents := [] }
  | indent :: rest, l =>
    if isOver indent then closeAll isOver rest (l.emit .blockEnd l.cursor)
    else { l with indents := indent :: rest }

/-- Closes the block collections that are deeper than a column. -/
def closeDeeper (l : Lexer) (column : Nat) : Lexer :=
  if l.inFlow then l else closeAll (column < ·) l.indents l

/-- Closes every block collection. -/
def closeBlocks (l : Lexer) : Lexer :=
  if l.inFlow then l else closeAll (fun _ => true) l.indents l

/-- The longest key. -/
def longestKey : Nat := 1024

/-- Forgets a key that has become too long or whose line has ended. -/
def dropStale (c : Cursor) : Option PendingKey → Except Fault (Option PendingKey)
  | none => .ok none
  | some key =>
    if key.place.line < c.line || key.place.index + longestKey < c.index then
      if key.required then .error .keyWithoutColon else .ok none
    else .ok (some key)

/-- Forgets the keys that cannot be keys any more. -/
def dropStaleKeys (l : Lexer) : Except Fault Lexer := do
  return { l with
    pending := ← dropStale l.cursor l.pending
    outer := ← l.outer.mapM (dropStale l.cursor) }

/-- Forgets the pending key. -/
def dropKey (l : Lexer) : Except Fault Lexer :=
  if l.pending.any (·.required) then .error .keyWithoutColon else .ok { l with pending := none }

/-- Remembers that a key may begin here. -/
def markKey (l : Lexer) : Except Fault Lexer :=
  if l.keyAllowed then do
    let required := !l.inFlow && l.indents.head? == some l.cursor.column
    let l ← l.dropKey
    return { l with pending := some ⟨required, l.count, l.cursor⟩ }
  else .ok l

/-- Whether a tab may stand between tokens here. -/
def allowsTab (l : Lexer) : Bool :=
  l.inFlow || !l.keyAllowed

/-- Moves over blanks, comments and ends of lines. A new line of block style may begin a key. -/
def skipToToken : Nat → Lexer → Lexer
  | 0, l => l
  | fuel + 1, l =>
    let c := l.cursor
    let c := if c.index == 0 && c.rest.head? == some '\ufeff' then c.skip 1 else c
    let c := c.skipWhile fun d => d == ' ' || (d == '\t' && l.allowsTab)
    let c := if c.rest.head? == some '#' then c.skipWhile fun d => !isBreak d else c
    if c.rest.head?.any isBreak then
      skipToToken fuel { l with cursor := c.skipBreak, keyAllowed := l.keyAllowed || !l.inFlow }
    else { l with cursor := c }

/-- Puts out an indicator of so many characters. -/
def indicator (l : Lexer) (t : Token) (width : Nat) : Lexer :=
  l.emit t (l.cursor.skip width)

/-- Reads a directive. -/
def readDirective (l : Lexer) : Except Fault Lexer := do
  let l ← l.closeBlocks.dropKey
  let (directive, c) ← Directive.read l.cursor
  return { l.emit (.directive directive) c with keyAllowed := false }

/-- Reads a marker of a document. -/
def readMarker (l : Lexer) (t : Token) : Except Fault Lexer := do
  let l ← l.closeBlocks.dropKey
  return { l.indicator t 3 with keyAllowed := false }

/-- Opens a flow collection. -/
def openFlow (l : Lexer) (t : Token) : Except Fault Lexer := do
  let l ← l.markKey
  return { l.indicator t 1 with pending := none, outer := l.pending :: l.outer, keyAllowed := true }

/-- Closes a flow collection. -/
def closeFlow (l : Lexer) (t : Token) : Except Fault Lexer := do
  let l ← l.dropKey
  let l := match l.outer with
    | [] => l
    | pending :: outer => { l with pending, outer }
  return { l.indicator t 1 with keyAllowed := false }

/-- Reads the comma of a flow collection. -/
def readFlowEntry (l : Lexer) : Except Fault Lexer := do
  let l ← l.dropKey
  return { l.indicator .flowEntry 1 with keyAllowed := true }

/-- Opens a block collection here for an indicator, which must be at a place for keys. -/
def openAtIndicator (l : Lexer) (c : Char) (t : Token) : Except Fault Lexer :=
  if l.inFlow then .ok l
  else if l.keyAllowed then .ok (l.openBlock l.cursor.column l.count t)
  else .error (.misplacedIndicator c)

/-- Reads the hyphen of a block sequence. -/
def readBlockEntry (l : Lexer) : Except Fault Lexer := do
  let l ← (← l.openAtIndicator '-' .blockSequenceStart).dropKey
  return { l.indicator .blockEntry 1 with keyAllowed := true }

/-- Reads the question mark of a key. -/
def readKey (l : Lexer) : Except Fault Lexer := do
  let l ← (← l.openAtIndicator '?' .blockMappingStart).dropKey
  return { l.indicator .key 1 with keyAllowed := !l.inFlow }

/-- Reads the colon of a value. If a key is pending, this is where it turns out to be one. -/
def readValue (l : Lexer) : Except Fault Lexer := do
  match l.pending with
  | some key =>
    let l := (l.insertAt key.number .key).openBlock key.place.column key.number .blockMappingStart
    return { l.indicator .value 1 with pending := none, keyAllowed := false }
  | none =>
    let l ← l.openAtIndicator ':' .blockMappingStart
    return { l.indicator .value 1 with keyAllowed := !l.inFlow }

/-- Reads an anchor or an alias. -/
def readAnchor (l : Lexer) (token : String → Token) : Except Fault Lexer := do
  let l ← l.markKey
  let (name, c) ← Yaml.readAnchor l.cursor
  return { l.emit (token name) c with keyAllowed := false }

/-- Reads a tag. -/
def readTag (l : Lexer) : Except Fault Lexer := do
  let l ← l.markKey
  let (tag, c) ← Tag.read l.inFlow l.cursor
  return { l.emit (.tag tag) c with keyAllowed := false }

/-- Reads a block scalar. -/
def readBlockScalar (l : Lexer) (style : Style) : Except Fault Lexer := do
  let l ← l.dropKey
  let (text, c) ← Block.read (style == .literal) l.indents.head? l.cursor
  return { l.emit (.scalar style (String.ofList text)) c with keyAllowed := true }

/-- Reads a quoted scalar. -/
def readQuoted (l : Lexer) (style : Style) : Except Fault Lexer := do
  let l ← l.markKey
  let (text, c) ← Quoted.read (style == .single) l.cursor
  return { l.emit (.scalar style (String.ofList text)) c with keyAllowed := false }

/-- The column at which lines of a plain scalar have to begin. -/
def plainIndent (l : Lexer) : Nat :=
  match l.indents with
  | [] => 0
  | indent :: _ => indent + 1

/-- Reads a plain scalar. If a line has ended behind it, a key may follow. -/
def readPlain (l : Lexer) : Except Fault Lexer := do
  let l ← l.markKey
  let (text, broken, c) ← Plain.read l.inFlow l.plainIndent l.cursor
  return { l.emit (.scalar .plain (String.ofList text)) c with keyAllowed := broken }

/-- The indicators that a plain scalar does not begin with. -/
def indicators : List Char :=
  "-?:,[]\x7b\x7d#&*!|>'\"%@`".toList

/-- Whether a plain scalar begins here. Three of the indicators may begin one in front of a
character that is not blank. -/
def beginsPlain (inFlow : Bool) : List Char → Bool
  | [] => false
  | c :: rest =>
    (isSolid c && !indicators.contains c) ||
      (c == '-' && !rest.head?.any isBlank) ||
      (!inFlow && (c == '?' || c == ':') && !isBlankOrEnd rest)

/-- Reads one token where it begins. -/
def readToken (l : Lexer) (c : Char) (rest : List Char) : Except Fault Lexer :=
  if l.cursor.column == 0 && c == '%' then l.readDirective
  else if l.cursor.isAtMarker then
    l.readMarker (if c == '-' then .documentStart else .documentEnd)
  else if c == '[' then l.openFlow .flowSequenceStart
  else if c == '\x7b' then l.openFlow .flowMappingStart
  else if c == ']' then l.closeFlow .flowSequenceEnd
  else if c == '\x7d' then l.closeFlow .flowMappingEnd
  else if c == ',' then l.readFlowEntry
  else if c == '-' && isBlankOrEnd rest then l.readBlockEntry
  else if c == '?' && (l.inFlow || isBlankOrEnd rest) then l.readKey
  else if c == ':' && (l.inFlow || isBlankOrEnd rest) then l.readValue
  else if c == '*' then l.readAnchor .alias
  else if c == '&' then l.readAnchor .anchor
  else if c == '!' then l.readTag
  else if c == '|' && !l.inFlow then l.readBlockScalar .literal
  else if c == '>' && !l.inFlow then l.readBlockScalar .folded
  else if c == '\'' then l.readQuoted .single
  else if c == '"' then l.readQuoted .double
  else if beginsPlain l.inFlow (c :: rest) then l.readPlain
  else .error (.strayCharacter c)

/-- The cursor at the end of the text, at the beginning of a line. -/
def forceLine (l : Lexer) : Lexer :=
  let c := l.cursor
  if c.column == 0 then l else { l with cursor := { c with line := c.line + 1, column := 0 } }

/-- Reads tokens to the end of the text. -/
def readAll : Nat → Lexer → Except Fault Lexer
  | 0, l => .ok l
  | fuel + 1, l => do
    let l := skipToToken (l.cursor.rest.length + 1) l
    let l ← l.dropStaleKeys
    let l := l.closeDeeper l.cursor.column
    match l.cursor.rest with
    | [] => l.forceLine.closeBlocks.dropKey
    | c :: rest => readAll fuel (← l.readToken c rest)

end Lexer

/-- The tokens of a text, if it can be cut into tokens. -/
def Token.ofText (text : String) : Except Fault (List Token) := do
  let cs := text.toList
  match cs.find? fun c => !isAllowed c with
  | some c => throw (.badCharacter c)
  | none => return (← Lexer.readAll (cs.length + 1) (.start cs)).tokens.reverse

end ScenarioSuite.Yaml
