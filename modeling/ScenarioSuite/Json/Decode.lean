import ScenarioSuite.Json.Printer
import ScenarioSuite.Schema.Basic

/-!
# Reading JSON values by a schema

A record is read from an object, or from an array that lists its fields in order.

## Main definitions

* `Json.wording`: the words of messages about JSON.
* `Schema.ofJson`: what a value is read into.
-/

namespace ScenarioSuite

/-- The words of messages about JSON. -/
def Json.wording : Schema.Wording where
  null := "null"
  real := Decimal.write (some Json.positionalRange)

/-- A number, as found. -/
def Json.Number.found : Json.Number → Schema.Found
  | .integer value => .integer value
  | .real value => .real value

/-- A value, as found. -/
def Json.found : Json → Schema.Found
  | .null => .null
  | .bool value => .bool value
  | .number n => n.found
  | .string value => .text value
  | .array _ => .sequence
  | .object _ => .mapping

/-- A number as a natural number of so many bits. -/
def Schema.naturalOfNumber (bits : Nat) : Json.Number → Except Schema.Mismatch Nat
  | .integer value => Schema.checkNatural bits value
  | .real value => .error (.kind (.real value) (Schema.naturalType bits))

/-- A known name, alone or as the only member of an object that binds it to null. -/
def Schema.nameOfJson {α : Type} (known : List (String × α)) :
    Json → Except Schema.Mismatch α
  | .string variant => Schema.checkName known variant
  | .object [(variant, value)] => do
    let result ← Schema.checkName known variant
    match value with
    | .null => .ok result
    | other => .error (.kind other.found "unit")
  | .object _ => .error (.value .mapping "map with a single key")
  | other => .error (.kind other.found "string or map")

mutual

/-- What a value is read into. -/
def Schema.ofJson : {α : Type} → Schema α → Json → Except Schema.Mismatch α
  | _, .text, .string s => .ok s
  | _, .text, other => .error (.kind other.found "a string")
  | _, .flag, .bool b => .ok b
  | _, .flag, other => .error (.kind other.found "a boolean")
  | _, .natural bits, .number n => Schema.naturalOfNumber bits n
  | _, .natural bits, other => .error (.kind other.found (Schema.naturalType bits))
  | _, .json, value => .ok value
  | _, .name known, value => Schema.nameOfJson known value
  | _, .textOr _ ofText _, .string s => .ok (ofText s)
  | _, .textOr _ _ ofJson, value => .ok (ofJson value)
  | _, .checked check, .string s => Schema.checkText check s
  | _, .checked _, other => .error (.kind other.found "a string")
  | _, .optional _, .null => .ok none
  | _, .optional inner, value => some <$> inner.ofJson value
  | _, .list inner, .array items => items.mapM inner.ofJson
  | _, .list _, other => .error (.kind other.found "a sequence")
  | _, .dict inner, .object members => do
    let pairs ← members.mapM fun member => return (member.1, ← inner.ofJson member.2)
    return Dict.ofList pairs
  | _, .dict _, other => .error (.kind other.found "a map")
  | _, .record _ fields build, .object members => do
    let slots ← members.foldlM (fun slots member => fields.setMember slots member.1 member.2)
      fields.noSlots
    return build (← fields.finish slots)
  | _, .record type fields build, .array items => do
    let (values, rest) ← fields.ofItems type fields.count 0 items
    if rest.isEmpty then return build values
    else .error (.length items.length "fewer elements in array")
  | _, .record type _ _, other => .error (.kind other.found ("struct " ++ type))

/-- Puts a named member in its field's place; a member of no field is passed over. -/
def Fields.setMember : {β : Type} → (fields : Fields β) → fields.Slots → String → Json →
    Except Schema.Mismatch fields.Slots
  | _, .nil, slots, _, _ => .ok slots
  | _, .cons name schema _ rest, slots, key, value =>
    let (slot, slots) : Option _ × rest.Slots := slots
    if name = key then
      if slot.isSome then .error (.duplicate name)
      else return (some (← schema.ofJson value), slots)
    else return (slot, ← rest.setMember slots key value)

/-- The fields in order from the items of an array, with the items left over. -/
def Fields.ofItems (type : String) (total position : Nat) : {β : Type} → Fields β → List Json →
    Except Schema.Mismatch (β × List Json)
  | _, .nil, items => .ok ((), items)
  | _, .cons name schema absent rest, [] => do
    return (← (Fields.cons name schema absent rest).finishSequence type total position, [])
  | _, .cons _ schema _ rest, item :: items => do
    let value ← schema.ofJson item
    let (values, items) ← rest.ofItems type total (position + 1) items
    return ((value, values), items)

end

end ScenarioSuite
