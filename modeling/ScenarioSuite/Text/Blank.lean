/-!
# Blank characters

A character is blank when it has the Unicode property `White_Space`. Blank characters are what
`trim` removes from both ends of a text.

## Main definitions

* `isBlank`: the property.
* `dropAround`: a text without what satisfies a predicate at either end.
* `trim`: a text without the blanks around it.
-/

namespace ScenarioSuite.Text

/-- The characters with the property `White_Space`. -/
def isBlank (c : Char) : Bool :=
  let n := c.toNat
  (9 ≤ n && n ≤ 13) || n == 0x20 || n == 0x85 || n == 0xA0 || n == 0x1680 ||
    (0x2000 ≤ n && n ≤ 0x200A) || n == 0x2028 || n == 0x2029 || n == 0x202F ||
    n == 0x205F || n == 0x3000

/-- The text without what satisfies `p` at its end. -/
def dropEndWhile (p : Char → Bool) (cs : List Char) : List Char :=
  (cs.reverse.dropWhile p).reverse

/-- The text without what satisfies `p` at either end. -/
def dropAround (p : Char → Bool) (cs : List Char) : List Char :=
  dropEndWhile p (cs.dropWhile p)

/-- The text without the blanks around it. -/
def trim (s : String) : String :=
  String.ofList (dropAround isBlank s.toList)

/-- Whether a text holds nothing but blanks. -/
def isAllBlank (s : String) : Bool :=
  s.toList.all isBlank

@[simp] theorem dropEndWhile_nil (p : Char → Bool) : dropEndWhile p [] = [] := rfl

end ScenarioSuite.Text
