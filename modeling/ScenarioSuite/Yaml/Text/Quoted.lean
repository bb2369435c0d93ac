import ScenarioSuite.Yaml.Text.Gap

/-!
# Quoted scalars

In single quotes only the quote itself is escaped, by being written twice. In double quotes a
backslash escapes characters, and the end of a line.
-/

namespace ScenarioSuite.Yaml.Quoted

/-- The value of a hexadecimal digit. -/
def hexDigit? (c : Char) : Option Nat :=
  if c.isDigit then some (c.toNat - 48)
  else if 'a' ≤ c ∧ c ≤ 'f' then some (c.toNat - 87)
  else if 'A' ≤ c ∧ c ≤ 'F' then some (c.toNat - 55)
  else none

/-- The value of hexadecimal digits. -/
def hexValue? (digits : List Char) : Option Nat :=
  digits.foldlM (fun n c => (hexDigit? c).map (n * 16 + ·)) 0

/-- The character of a code point in hexadecimal digits. -/
def codePoint (digits : List Char) : Except Fault Char :=
  match hexValue? digits with
  | none => .error .badEscape
  | some n =>
    if (0xD800 ≤ n && n ≤ 0xDFFF) || 0x10FFFF < n then .error .badEscape else .ok (Char.ofNat n)

/-- The character that a single one behind a backslash stands for. -/
def escaped? : Char → Option Char
  | '0' => some '\x00'
  | 'a' => some '\x07'
  | 'b' => some '\x08'
  | 't' => some '\t'
  | '\t' => some '\t'
  | 'n' => some '\n'
  | 'v' => some '\x0b'
  | 'f' => some '\x0c'
  | 'r' => some '\r'
  | 'e' => some '\x1b'
  | ' ' => some ' '
  | '"' => some '"'
  | '/' => some '/'
  | '\\' => some '\\'
  | 'N' => some '\u0085'
  | '_' => some '\u00a0'
  | 'L' => some '\u2028'
  | 'P' => some '\u2029'
  | _ => none

/-- The characters in single quotes up to a blank or the quote, and what follows them. -/
def singleRun : List Char → List Char × List Char
  | [] => ([], [])
  | '\'' :: '\'' :: rest =>
    let (text, rest) := singleRun rest
    ('\'' :: text, rest)
  | c :: rest =>
    if c == '\'' || !isSolid c then ([], c :: rest)
    else
      let (text, rest) := singleRun rest
      (c :: text, rest)

/-- Puts a character in front of a run. -/
def cons (c : Char) (run : Except Fault (List Char × List Char)) :
    Except Fault (List Char × List Char) := do
  let (text, rest) ← run
  return (c :: text, rest)

/-- The characters in double quotes up to a blank, the quote, or the escaped end of a line, and
what follows them. -/
def doubleRun : List Char → Except Fault (List Char × List Char)
  | [] => .ok ([], [])
  | '\\' :: 'x' :: a :: b :: rest => do
    cons (← codePoint [a, b]) (doubleRun rest)
  | '\\' :: 'u' :: a :: b :: c :: d :: rest => do
    cons (← codePoint [a, b, c, d]) (doubleRun rest)
  | '\\' :: 'U' :: a :: b :: c :: d :: e :: f :: g :: h :: rest => do
    cons (← codePoint [a, b, c, d, e, f, g, h]) (doubleRun rest)
  | '\\' :: c :: rest =>
    if isBreak c then .ok ([], '\\' :: c :: rest)
    else match escaped? c with
      | some d => cons d (doubleRun rest)
      | none => .error .badEscape
  | c :: rest =>
    if c == '\\' then .error .badEscape
    else if c == '"' || !isSolid c then .ok ([], c :: rest)
    else cons c (doubleRun rest)

/-- Reads on behind the opening quote or a gap. -/
def readOn (single : Bool) : Nat → List Char → Cursor → Except Fault (List Char × Cursor)
  | 0, _, _ => .error .openQuote
  | fuel + 1, text, c => do
    if c.isAtMarker then throw .markerInQuotes
    if c.rest.isEmpty then throw .openQuote
    let (taken, rest) ← if single then pure (singleRun c.rest) else doubleRun c.rest
    let c := c.skipTo rest
    let (gap, c) :=
      if c.rest.head? == some '\\' && !single then (Gap.escaped, (c.skip 1).skipBreak)
      else (.empty, c)
    if c.rest.head? == some (if single then '\'' else '"') then
      return (text ++ taken, c.skip 1)
    let (gap, c) ← gap.read 0 (c.rest.length + 1) c
    readOn single fuel (text ++ taken ++ gap.text) c

/-- Reads a quoted scalar from its opening quote. -/
def read (single : Bool) (c : Cursor) : Except Fault (List Char × Cursor) :=
  readOn single (c.rest.length + 1) [] (c.skip 1)

end ScenarioSuite.Yaml.Quoted
