import ScenarioSuite.Text.Utf8
import ScenarioSuite.Yaml.Text.Quoted

/-!
# Tags, anchors and directives

A tag is written with a handle and a suffix, or in full between angle brackets. A directive in
front of a document names the version of the format or gives a handle a meaning.

## Main definitions

* `Tag`: a handle and a suffix; a tag in full has an empty handle.
* `Directive`: what a line that begins with a percent sign says.
* `Tag.read`, `Anchor.read`, `Directive.read`.
-/

namespace ScenarioSuite.Yaml

/-- A handle and a suffix; a tag in full has an empty handle. -/
structure Tag where
  handle : String
  suffix : String
deriving Repr, DecidableEq

/-- A line in front of a document. -/
inductive Directive where
  | version (major minor : Nat)
  | tag (handle meaning : String)
deriving Repr, DecidableEq

namespace Tag

/-- Reads a handle: an exclamation mark and a word, with a second mark behind it or not. In a
directive only the mark alone may lack the second one. -/
def readHandle (inDirective : Bool) (c : Cursor) : Except Fault (List Char × Cursor) :=
  match c.rest with
  | '!' :: _ =>
    let (word, c) := (c.skip 1).span isWord
    if c.rest.head? == some '!' then .ok ('!' :: word ++ ['!'], c.skip 1)
    else if inDirective && !word.isEmpty then .error .badDirective
    else .ok ('!' :: word, c)
  | _ => .error .badTag

/-- A character of a suffix. Flow indicators may stand in a tag in full and in a directive. -/
def isSuffixChar (inFull : Bool) (c : Char) : Bool :=
  isWord c || ";/?:@&=+$.%!~*'()".toList.contains c || (inFull && (c == ',' || c == '[' || c == ']'))

/-- The number of bytes of the character that a byte begins. -/
def widthOf? (byte : Nat) : Option Nat :=
  if byte < 0x80 then some 1
  else if 0xC0 ≤ byte ∧ byte < 0xE0 then some 2
  else if 0xE0 ≤ byte ∧ byte < 0xF0 then some 3
  else if 0xF0 ≤ byte ∧ byte < 0xF8 then some 4
  else none

/-- The bytes of a suffix in which percent signs escape bytes. So many more bytes belong to a
character that has begun. -/
def suffixBytes : Nat → List Char → Except Fault (List UInt8)
  | 0, [] => .ok []
  | _ + 1, [] => .error .badTag
  | pending, '%' :: a :: b :: rest =>
    match Quoted.hexValue? [a, b] with
    | none => .error .badTag
    | some byte =>
      match pending with
      | 0 =>
        match widthOf? byte with
        | none => .error .badTag
        | some width => (byte.toUInt8 :: ·) <$> suffixBytes (width - 1) rest
      | more + 1 =>
        if byte / 64 = 2 then (byte.toUInt8 :: ·) <$> suffixBytes more rest else .error .badTag
  | 0, c :: rest =>
    if c == '%' then .error .badTag
    else (Text.Utf8.encode (String.singleton c) ++ ·) <$> suffixBytes 0 rest
  | _ + 1, _ :: _ => .error .badTag

/-- Reads a suffix behind what has been taken for a handle. -/
def readSuffix (inFull : Bool) (head : List Char) (c : Cursor) :
    Except Fault (String × Cursor) := do
  let (run, c) := c.span (isSuffixChar inFull)
  if head.isEmpty && run.isEmpty then throw .badTag
  let bytes ← suffixBytes 0 run
  return (String.ofList (head.drop 1) ++ Text.Utf8.decodeLossy bytes, c)

/-- Reads a tag up to the blank behind it. -/
def read (inFlow : Bool) (c : Cursor) : Except Fault (Tag × Cursor) := do
  let (tag, c) ← match c.rest with
    | '!' :: '<' :: _ => do
      let (suffix, c) ← readSuffix true [] (c.skip 2)
      if c.rest.head? != some '>' then throw .badTag
      pure (Tag.mk "" suffix, c.skip 1)
    | _ => do
      let (handle, c) ← readHandle false c
      if 1 < handle.length && handle.getLast? == some '!' then
        let (suffix, c) ← readSuffix false [] c
        pure (Tag.mk (String.ofList handle) suffix, c)
      else
        let (suffix, c) ← readSuffix false handle c
        pure (if suffix.isEmpty then Tag.mk "" "!" else Tag.mk "!" suffix, c)
  if isBlankOrEnd c.rest || (inFlow && c.rest.head? == some ',') then return (tag, c)
  else throw .badTag

end Tag

/-- Reads the name behind the indicator of an anchor or an alias. -/
def readAnchor (c : Cursor) : Except Fault (String × Cursor) :=
  let (name, c) := (c.skip 1).span isWord
  let ends := isBlankOrEnd c.rest || c.rest.head?.any fun d => "?:,]\x7d%@`".toList.contains d
  if name.isEmpty || !ends then .error .badAnchor else .ok (String.ofList name, c)

namespace Directive

/-- The longest number of a version. -/
def longestNumber : Nat := 9

/-- Reads a number of a version. -/
def readNumber (c : Cursor) : Except Fault (Nat × Cursor) :=
  let (digits, c) := c.span Char.isDigit
  if digits.isEmpty || longestNumber < digits.length then .error .badDirective
  else .ok (digits.foldl (fun n d => n * 10 + (d.toNat - 48)) 0, c)

/-- Reads the numbers of a version, parted by a dot. -/
def readVersion (c : Cursor) : Except Fault (Directive × Cursor) := do
  let (major, c) ← readNumber (c.skipWhile isBlank)
  if c.rest.head? != some '.' then throw .badDirective
  let (minor, c) ← readNumber (c.skip 1)
  return (.version major minor, c)

/-- Reads a handle and its meaning. -/
def readTag (c : Cursor) : Except Fault (Directive × Cursor) := do
  let (handle, c) ← Tag.readHandle true (c.skipWhile isBlank)
  if !c.rest.head?.any isBlank then throw .badDirective
  let (meaning, c) ← Tag.readSuffix true [] (c.skipWhile isBlank)
  if !isBlankOrEnd c.rest then throw .badDirective
  return (.tag (String.ofList handle) meaning, c)

/-- Reads a directive to the end of its line. -/
def read (c : Cursor) : Except Fault (Directive × Cursor) := do
  let (name, c) := (c.skip 1).span isWord
  if name.isEmpty || !isBlankOrEnd c.rest then throw .badDirective
  let (directive, c) ←
    if name == "YAML".toList then readVersion c
    else if name == "TAG".toList then readTag c
    else throw .badDirective
  match c.endLine? with
  | none => throw .badDirective
  | some c => return (directive, c)

end Directive

end ScenarioSuite.Yaml
