import ScenarioSuite.Yaml.Text.Gap

/-!
# Plain scalars

A plain scalar ends in front of a colon with a blank behind it, of a comment, of a line that is not
indented enough, and of a document marker. In flow style the flow indicators end it as well.
-/

namespace ScenarioSuite.Yaml.Plain

/-- The flow indicators that end a plain scalar in flow style. -/
def isFlowEnd (c : Char) : Bool :=
  c == ',' || c == '[' || c == ']' || c == '\x7b' || c == '\x7d'

/-- The characters of a plain scalar up to a blank or its end. -/
def run (inFlow : Bool) : List Char → Except Fault (List Char)
  | [] => .ok []
  | c :: rest =>
    if !isSolid c then .ok []
    else if inFlow && c == ':' && rest.head?.any (fun d => isFlowEnd d || d == '?') then
      .error .colonInFlow
    else if (c == ':' && isBlankOrEnd rest) || (inFlow && isFlowEnd c) then .ok []
    else (c :: ·) <$> run inFlow rest

/-- Reads on in a plain scalar. The result tells whether a line ended behind its last run. -/
def readOn (inFlow : Bool) (indent : Nat) :
    Nat → List Char → Gap → Cursor → Except Fault (List Char × Bool × Cursor)
  | 0, text, gap, c => .ok (text, gap.broken, c)
  | fuel + 1, text, gap, c => do
    if c.isAtMarker || c.rest.head? == some '#' then return (text, gap.broken, c)
    let taken ← run inFlow c.rest
    let text := if taken.isEmpty then text else text ++ gap.text ++ taken
    let gap := if taken.isEmpty then gap else .empty
    let c := c.skip taken.length
    if c.rest.isEmpty || c.rest.head?.any isSolid then return (text, gap.broken, c)
    let (gap, c) ← gap.read indent (c.rest.length + 1) c
    if !inFlow && c.column < indent then return (text, gap.broken, c)
    readOn inFlow indent fuel text gap c

/-- Reads a plain scalar. -/
def read (inFlow : Bool) (indent : Nat) (c : Cursor) : Except Fault (List Char × Bool × Cursor) :=
  readOn inFlow indent (c.rest.length + 1) [] .empty c

end ScenarioSuite.Yaml.Plain
