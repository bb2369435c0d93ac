import ScenarioSuite.Yaml.Cursor
import ScenarioSuite.Yaml.Fault

/-!
# Gaps in a scalar

Inside a plain or quoted scalar, blanks on a line stand for themselves. Blanks around the end of a
line are dropped; a single end of a line becomes a space, and of several all but the first stay.

## Main definitions

* `Gap`: the blanks and ends of lines between two runs of a scalar.
* `Gap.text`: what a gap stands for.
* `Gap.read`: a gap, from where the cursor stands.
-/

namespace ScenarioSuite.Yaml

/-- The blanks and the ends of lines between two runs of a scalar. -/
structure Gap where
  /-- The blanks, while no line has ended. -/
  blanks : List Char
  /-- Whether a line has ended. -/
  broken : Bool
  /-- What the first end of a line stands for. -/
  first : List Char
  /-- What the other ends of lines stand for. -/
  others : List Char
deriving Repr

namespace Gap

/-- Nothing between two runs. -/
def empty : Gap := ⟨[], false, [], []⟩

/-- The end of a line that an escape takes away. -/
def escaped : Gap := ⟨[], true, [], []⟩

/-- What a gap stands for. -/
def text (g : Gap) : List Char :=
  if !g.broken then g.blanks
  else if g.first == ['\n'] then
    if g.others.isEmpty then [' '] else g.others
  else g.first ++ g.others

/-- The gap with one more end of a line. -/
def addBreak (g : Gap) (b : List Char) : Gap :=
  if g.broken then { g with others := g.others ++ b } else ⟨[], true, b, []⟩

/-- Reads a gap to its end. In front of column `indent` a tab may not stand. -/
def read (indent : Nat) : Nat → Gap → Cursor → Except Fault (Gap × Cursor)
  | 0, g, c => .ok (g, c)
  | fuel + 1, g, c =>
    match c.rest with
    | [] => .ok (g, c)
    | b :: _ =>
      if isBlank b then
        if !g.broken then read indent fuel { g with blanks := g.blanks ++ [b] } (c.skip 1)
        else if b == '\t' && c.column < indent then .error .tab
        else read indent fuel g (c.skip 1)
      else if isBreak b then
        let (b, c) := c.takeBreak
        read indent fuel (g.addBreak b) c
      else .ok (g, c)

end Gap

end ScenarioSuite.Yaml
