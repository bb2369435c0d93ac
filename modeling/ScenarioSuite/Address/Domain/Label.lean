import ScenarioSuite.Address.Domain.Joiner
import ScenarioSuite.Address.Domain.Punycode

/-!
# Domain names

A domain name is a list of labels between dots. Its characters are first put in their plain forms,
in lower case. A label with letters beyond ASCII, in itself or written in ASCII, has to obey the
rules on marks, joiners and directions; the rule on directions holds for every label as soon as
one of them has a letter that is written from right to left.

## Main definitions

* `Label`: a plain label, or one with letters beyond ASCII.
* `labels?`: the labels of a domain name.
-/

namespace ScenarioSuite.Address.Domain

/-- A label of a domain name. -/
inductive Label where
  /-- All of its characters are of ASCII. -/
  | plain (text : List Char)
  /-- Some of its letters are not of ASCII. -/
  | foreign (text : List Char)
deriving Repr, DecidableEq

/-- The characters of a label. -/
def Label.chars : Label → List Char
  | .plain text => text
  | .foreign text => text

/-- The characters of a name in their plain forms, unless one is refused. -/
def plainForms : List Char → Option (List Char)
  | [] => some []
  | c :: rest => do
    let rest ← plainForms rest
    match use c with
    | .refused => none
    | .ignored => some rest
    | .plain text => some (text ++ rest)
    | .foreign => some (c :: rest)

/-- Splits at dots, with the characters since the last one in front. -/
def splitDots (run : List Char) : List Char → List (List Char)
  | [] => [run]
  | '.' :: rest => run :: splitDots [] rest
  | c :: rest => splitDots (run ++ [c]) rest

/-- Whether a character is of ASCII. -/
def isPlain (c : Char) : Bool :=
  c.toNat < 128

/-- The mark of a label whose letters are written in ASCII. -/
def codedMark : List Char := ['x', 'n', '-', '-']

/-- Whether marks and joiners are in their places. -/
def isWellFormed (label : List Char) : Bool :=
  !(label.head?.any isMark) && joinersFit label

/-- A label whose letters are written in ASCII behind the mark. Written so are only labels with
other letters, all in their plain forms. -/
def decodeLabel? (coded : List Char) : Option Label :=
  match Punycode.decode? coded with
  | none => none
  | some text =>
    if !text.all isPlain && plainForms text == some text && isWellFormed text then
      some (.foreign text)
    else none

/-- The label that characters in their plain forms make. -/
def label? (cs : List Char) : Option Label :=
  if codedMark.isPrefixOf cs then
    if cs.all isPlain then decodeLabel? (cs.drop codedMark.length) else none
  else if cs.all isPlain then some (.plain cs)
  else if isWellFormed cs then some (.foreign cs)
  else none

/-- Whether the directions of the labels fit. -/
def areOrdered (labels : List Label) : Bool :=
  !(labels.any fun l => l.chars.any isRightToLeft) || labels.all fun l => isOrdered l.chars

/-- The labels of a domain name. -/
def labels? (name : List Char) : Option (List Label) := do
  let labels ← (splitDots [] (← plainForms name)).mapM label?
  if areOrdered labels then some labels else none

end ScenarioSuite.Address.Domain
