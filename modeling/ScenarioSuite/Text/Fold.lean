/-!
# Letter case

Header names and media types compare without regard to the case of ASCII letters. Method names
are read after taking capitals, which a few letters outside ASCII also have in ASCII.
-/

namespace ScenarioSuite.Text

/-- The character with an ASCII capital made small. -/
def foldChar (c : Char) : Char :=
  if 'A' ≤ c ∧ c ≤ 'Z' then Char.ofNat (c.toNat + 32) else c

/-- The text with every ASCII capital made small. -/
def fold (s : String) : String :=
  String.ofList (s.toList.map foldChar)

/-- Equality up to the case of ASCII letters. -/
def sameFold (s t : String) : Bool :=
  s.toList.map foldChar == t.toList.map foldChar

/-- The capital form of a character, for the characters whose capital form is all ASCII;
other characters stay as they are. -/
def capitalForm (c : Char) : List Char :=
  if 'a' ≤ c ∧ c ≤ 'z' then [Char.ofNat (c.toNat - 32)]
  else match c.toNat with
    | 0xDF => ['S', 'S']
    | 0x131 => ['I']
    | 0x17F => ['S']
    | 0xFB00 => ['F', 'F']
    | 0xFB01 => ['F', 'I']
    | 0xFB02 => ['F', 'L']
    | 0xFB03 => ['F', 'F', 'I']
    | 0xFB04 => ['F', 'F', 'L']
    | 0xFB05 => ['S', 'T']
    | 0xFB06 => ['S', 'T']
    | _ => [c]

/-- The text in capitals, as far as they are ASCII. -/
def capitals (s : String) : String :=
  String.ofList (s.toList.flatMap capitalForm)

end ScenarioSuite.Text
