import ScenarioSuite.Dict

/-!
# JSON values

An object is the list of its members in the order in which they are written. Reading puts them in
increasing order of their names and keeps the last of several members with one name. Integers and
real numbers are kept apart and never equal.

## Main definitions

* `Json`: the values.
* `Json.same`: equality, with real numbers compared as numbers.
* `Json.objectOf`: the object of a list of members, the last of one name winning.
* `Json.member?`, `Json.item?`: one step into an object or an array.
-/

namespace ScenarioSuite

/-- A number: an integer of at most 64 bits as read, or a real number. -/
inductive Json.Number where
  | integer (value : Int)
  | real (value : Float)

/-- A JSON value. -/
inductive Json where
  | null
  | bool (value : Bool)
  | number (value : Json.Number)
  | string (value : String)
  | array (items : List Json)
  | object (members : List (String × Json))

namespace Json

instance : Inhabited Json := ⟨.null⟩

/-- The integer as a value. -/
def ofInt (n : Int) : Json := .number (.integer n)

/-- The natural number as a value. -/
def ofNat (n : Nat) : Json := .number (.integer n)

/-- The text, or null. -/
def ofString? : Option String → Json
  | some s => .string s
  | none => .null

/-- The object of a list of members; of two with one name the later wins. -/
def objectOf (members : List (String × Json)) : Json :=
  .object (Bindings.ofList members)

/-- The object of a dictionary of texts. -/
def ofDict (d : Dict String) : Json :=
  .object (d.entries.map fun entry => (entry.1, .string entry.2))

/-- Equality of numbers. An integer never equals a real number, and the two zeros are equal. -/
def Number.same : Number → Number → Bool
  | .integer a, .integer b => a == b
  | .real a, .real b => a == b
  | _, _ => false

mutual

/-- Equality of values. -/
def same : Json → Json → Bool
  | .null, .null => true
  | .bool a, .bool b => a == b
  | .number a, .number b => a.same b
  | .string a, .string b => a == b
  | .array as, .array bs => sameItems as bs
  | .object as, .object bs => sameMembers as bs
  | _, _ => false

/-- Equality item by item. -/
def sameItems : List Json → List Json → Bool
  | [], [] => true
  | a :: as, b :: bs => same a b && sameItems as bs
  | _, _ => false

/-- Equality member by member. -/
def sameMembers : List (String × Json) → List (String × Json) → Bool
  | [], [] => true
  | (k, a) :: as, (l, b) :: bs => k == l && same a b && sameMembers as bs
  | _, _ => false

end

/-- The member of a name; only objects have members. -/
def member? (name : String) : Json → Option Json
  | .object members => Bindings.get? name members
  | _ => none

/-- The item at an index; only arrays have items. -/
def item? (index : Nat) : Json → Option Json
  | .array items => items[index]?
  | _ => none

end Json

end ScenarioSuite
