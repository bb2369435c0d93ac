import ScenarioSuite.Yaml.Cursor
import ScenarioSuite.Yaml.Fault

/-!
# Block scalars

A literal scalar keeps its lines, a folded one joins them by spaces. The header may tell how deep
the lines are indented, and whether the ends of lines behind the last one are kept or dropped.
-/

namespace ScenarioSuite.Yaml.Block

/-- What becomes of the ends of lines behind the last line. -/
inductive Chomping where
  | drop
  | clip
  | keep
deriving Repr, DecidableEq

/-- The header of a block scalar. -/
structure Header where
  chomping : Chomping
  /-- How much deeper than its parent the scalar is indented, if told. -/
  increment : Option Nat
deriving Repr

/-- The chomping of a sign. -/
def chomping? : List Char → Option Chomping
  | '+' :: _ => some .keep
  | '-' :: _ => some .drop
  | _ => none

/-- The digit ahead. -/
def digit? : List Char → Option Nat
  | c :: _ => if c.isDigit then some (c.toNat - 48) else none
  | [] => none

/-- Reads the header of a block scalar, sign and digit in any order, to the end of the line. -/
def readHeader (c : Cursor) : Except Fault (Header × Cursor) := do
  let sign := chomping? c.rest
  let c := if sign.isSome then c.skip 1 else c
  let digit := digit? c.rest
  let c := if digit.isSome then c.skip 1 else c
  let late := if sign.isNone && digit.isSome then chomping? c.rest else none
  let c := if late.isSome then c.skip 1 else c
  if digit == some 0 then throw .badBlockHeader
  match c.endLine? with
  | none => throw .badBlockHeader
  | some c => return (⟨(sign.or late).getD .clip, digit⟩, c)

/-- Whether a column is still part of the indentation. -/
def isIndentation (indent : Option Nat) (column : Nat) : Bool :=
  match indent with
  | none => true
  | some n => column < n

/-- The cursor behind the spaces of the indentation. -/
def skipIndentation (indent : Option Nat) (c : Cursor) : Cursor :=
  let spaces := (c.rest.takeWhile (· == ' ')).length
  match indent with
  | none => c.skip spaces
  | some n => c.skip (min spaces (n - c.column))

/-- Reads empty lines and the indentation of the next line. The result holds the ends of lines, and
the deepest column reached. -/
def readBreaks (indent : Option Nat) :
    Nat → List Char → Nat → Cursor → Except Fault (List Char × Nat × Cursor)
  | 0, breaks, deepest, c => .ok (breaks, deepest, c)
  | fuel + 1, breaks, deepest, c =>
    let c := skipIndentation indent c
    let deepest := max deepest c.column
    if isIndentation indent c.column && c.rest.head? == some '\t' then .error .tab
    else if c.rest.head?.any isBreak then
      let (b, c) := c.takeBreak
      readBreaks indent fuel (breaks ++ b) deepest c
    else .ok (breaks, deepest, c)

/-- What stands between two lines: the end of the first and those of the empty lines between. -/
def join (literal : Bool) (first others : List Char) (blankBefore blankBehind : Bool) : List Char :=
  if !literal && first == ['\n'] && !blankBefore && !blankBehind then
    (if others.isEmpty then [' '] else []) ++ others
  else first ++ others

/-- Reads the lines of a block scalar. The result holds its text, the end of the last line, and
those of the empty lines behind it. -/
def readLines (literal : Bool) (indent : Nat) :
    Nat → List Char → List Char → List Char → Bool → Cursor →
      Except Fault (List Char × List Char × List Char × Cursor)
  | 0, text, first, others, _, c => .ok (text, first, others, c)
  | fuel + 1, text, first, others, blankBefore, c => do
    if c.column != indent || c.rest.isEmpty then return (text, first, others, c)
    let blank := c.rest.head?.any isBlank
    let between := join literal first others blankBefore blank
    let (line, c) := c.span fun d => !isBreak d
    let (first, c) := c.takeBreak
    let (others, _, c) ← readBreaks (some indent) (c.rest.length + 1) [] 0 c
    readLines literal indent fuel (text ++ between ++ line) first others blank c

/-- Reads a block scalar from its indicator. The parent's lines are indented by `parent` columns,
if there are any. -/
def read (literal : Bool) (parent : Option Nat) (c : Cursor) :
    Except Fault (List Char × Cursor) := do
  let (header, c) ← readHeader (c.skip 1)
  let told := header.increment.map ((parent.getD 0) + ·)
  let (others, deepest, c) ← readBreaks told (c.rest.length + 1) [] 0 c
  let least := match parent with
    | some n => n + 1
    | none => 0
  let indent := told.getD (max (max deepest least) 1)
  let (text, first, others, c) ← readLines literal indent (c.rest.length + 1) [] [] others false c
  let tail := match header.chomping with
    | .drop => []
    | .clip => first
    | .keep => first ++ others
  return (text ++ tail, c)

end ScenarioSuite.Yaml.Block
