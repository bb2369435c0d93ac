import ScenarioSuite.Json.Basic
import ScenarioSuite.Store
import ScenarioSuite.Template.Segment

/-!
# Substitution

Values take the place of placeholders from left to right, and are not looked at again. The first
placeholder without a value is the error. In a JSON value every text is a template; the names of
members are not.

## Main definitions

* `substitute`: a text with values in place of placeholders.
* `substituteJson`: the same in the texts of a JSON value.

## Main statements

* `substitute_eq_fill`: every text is filled segment by segment.
-/

namespace ScenarioSuite.Template

/-- The characters that a segment stands for. -/
def Segment.fill (store : Store) : Segment → Except Unbound (List Char)
  | .literal c => .ok [c]
  | .placeholder name => String.toList <$> store.get name

/-- The characters that segments stand for. -/
def fill (store : Store) : List Segment → Except Unbound (List Char)
  | [] => .ok []
  | segment :: rest => do return (← segment.fill store) ++ (← fill store rest)

/-- The text with values in place of placeholders. A text without two opening braces side by side
is given back without being looked through. -/
def substitute (store : Store) (text : String) : Except Unbound String :=
  if hasOpening text.toList then String.ofList <$> fill store (segments text) else .ok text

theorem fill_map_literal (store : Store) (cs : List Char) :
    fill store (cs.map .literal) = .ok cs := by
  induction cs with
  | nil => rfl
  | cons c rest ih =>
    rw [List.map_cons, fill, ih]
    rfl

/-- To look through a text that is given back would change nothing. -/
theorem substitute_eq_fill (store : Store) (text : String) :
    substitute store text = String.ofList <$> fill store (segments text) := by
  unfold substitute
  split
  · rfl
  · next plain =>
    have filled := fill_map_literal store text.toList
    rw [segments, segmentsOf_of_not_hasOpening plain, filled]
    exact congrArg Except.ok String.ofList_toList.symm

mutual

/-- The value with every text substituted. -/
def substituteJson (store : Store) : Json → Except Unbound Json
  | .string s => .string <$> substitute store s
  | .array items => .array <$> substituteItems store items
  | .object members => .object <$> substituteMembers store members
  | .null => .ok .null
  | .bool b => .ok (.bool b)
  | .number n => .ok (.number n)

/-- The items with every text substituted. -/
def substituteItems (store : Store) : List Json → Except Unbound (List Json)
  | [] => .ok []
  | item :: rest => do return (← substituteJson store item) :: (← substituteItems store rest)

/-- The members with every text substituted; their names stay. -/
def substituteMembers (store : Store) :
    List (String × Json) → Except Unbound (List (String × Json))
  | [] => .ok []
  | (name, value) :: rest => do
    return (name, ← substituteJson store value) :: (← substituteMembers store rest)

end

mutual

/-- The names of the placeholders in the texts of a value, in document order. -/
def references : Json → List String
  | .string s => placeholders s
  | .array items => referencesOfItems items
  | .object members => referencesOfMembers members
  | _ => []

/-- The names of the placeholders in items. -/
def referencesOfItems : List Json → List String
  | [] => []
  | item :: rest => references item ++ referencesOfItems rest

/-- The names of the placeholders in members. -/
def referencesOfMembers : List (String × Json) → List String
  | [] => []
  | (_, value) :: rest => references value ++ referencesOfMembers rest

end

end ScenarioSuite.Template
