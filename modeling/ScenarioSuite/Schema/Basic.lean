import ScenarioSuite.Json.Basic
import ScenarioSuite.Schema.Mismatch

/-!
# Schemas

A schema describes the data that a file or a message holds, and the value that is built from it.
Each format reads by schema in a module of its own, with the same rules: members of a record come
in any order, none may come twice, unknown ones are passed over, and what is absent may have a
standard value.

## Main definitions

* `Schema α`: what is read into an `α`.
* `Fields β`: the fields of a record, read into a product.
* `Absent`: what holds when a field is not there.
* `Fields.Slots`: the fields read so far.
-/

namespace ScenarioSuite

/-- What holds when a field of a record is not there. -/
inductive Schema.Absent (α : Type) where
  /-- The field must be there. -/
  | refused
  /-- The field may be missing among named members, but not at the end of a sequence. -/
  | allowed (value : α)
  /-- The field may be missing everywhere. -/
  | standard (value : α)

mutual

/-- What is read into an `α`. -/
inductive Schema : Type → Type 1 where
  /-- A text. -/
  | text : Schema String
  /-- A truth value. -/
  | flag : Schema Bool
  /-- A natural number of so many bits. -/
  | natural (bits : Nat) : Schema Nat
  /-- Any JSON value. -/
  | json : Schema Json
  /-- One of some names. -/
  | name {α : Type} (known : List (String × α)) : Schema α
  /-- A text, or failing that any JSON value. -/
  | textOr {α : Type} (type : String) (ofText : String → α) (ofJson : Json → α) : Schema α
  /-- A text that a check accepts. -/
  | checked {α : Type} (check : String → Except String α) : Schema α
  /-- Null for nothing. -/
  | optional {α : Type} (inner : Schema α) : Schema (Option α)
  /-- A sequence. -/
  | list {α : Type} (inner : Schema α) : Schema (List α)
  /-- Members with any names; the last of one name wins. -/
  | dict {α : Type} (inner : Schema α) : Schema (Dict α)
  /-- Members with the names of the fields. -/
  | record {α β : Type} (type : String) (fields : Fields β) (build : β → α) : Schema α

/-- The fields of a record in order. -/
inductive Fields : Type → Type 1 where
  | nil : Fields Unit
  | cons {α β : Type} (name : String) (schema : Schema α) (absent : Schema.Absent α)
      (rest : Fields β) : Fields (α × β)

end

namespace Fields

/-- One place per field for what has been read. -/
@[reducible] def Slots : {β : Type} → Fields β → Type
  | _, .nil => Unit
  | _, .cons (α := α) _ _ _ rest => Option α × rest.Slots

/-- Nothing has been read. -/
def noSlots : {β : Type} → (fields : Fields β) → fields.Slots
  | _, .nil => ()
  | _, .cons _ _ _ rest => (none, rest.noSlots)

/-- The number of fields. -/
def count : {β : Type} → Fields β → Nat
  | _, .nil => 0
  | _, .cons _ _ _ rest => rest.count + 1

/-- Whether a field has the name. -/
def has (key : String) : {β : Type} → Fields β → Bool
  | _, .nil => false
  | _, .cons name _ _ rest => name == key || rest.has key

/-- Whether the field of the name has been read. -/
def isFilled (key : String) : {β : Type} → (fields : Fields β) → fields.Slots → Bool
  | _, .nil, _ => false
  | _, .cons name _ _ rest, slots =>
    let (slot, slots) : Option _ × rest.Slots := slots
    if name = key then slot.isSome else rest.isFilled key slots

/-- All fields, after the last named member. -/
def finish : {β : Type} → (fields : Fields β) → fields.Slots → Except Schema.Mismatch β
  | _, .nil, _ => .ok ()
  | _, .cons name _ absent rest, slots => do
    let (slot, slots) : Option _ × rest.Slots := slots
    let value ← match slot, absent with
      | some value, _ => .ok value
      | none, .refused => .error (.missing name)
      | none, .allowed value => .ok value
      | none, .standard value => .ok value
    return (value, ← rest.finish slots)

/-- The fields from some place on, when a sequence ended before them. -/
def finishSequence (type : String) (total position : Nat) :
    {β : Type} → Fields β → Except Schema.Mismatch β
  | _, .nil => .ok ()
  | _, .cons _ _ absent rest =>
    match absent with
    | .standard value => do return (value, ← rest.finishSequence type total (position + 1))
    | _ =>
      .error (.length position
        ("struct " ++ type ++ " with " ++ toString total ++ " element" ++
          (if total = 1 then "" else "s")))

end Fields

namespace Schema

/-- The text wanted for a natural number of so many bits. -/
def naturalType (bits : Nat) : String := "u" ++ toString bits

/-- An integer as a natural number of so many bits. -/
def checkNatural (bits : Nat) (n : Int) : Except Mismatch Nat :=
  if 0 ≤ n ∧ n < Nat.pow 2 bits then .ok n.toNat else .error (.value (.integer n) (naturalType bits))

/-- The value of a known name. -/
def checkName {α : Type} (known : List (String × α)) (name : String) : Except Mismatch α :=
  match Bindings.get? name known with
  | some value => .ok value
  | none => .error (.unknownName name (known.map (·.1)))

/-- A text after its check. -/
def checkText {α : Type} (check : String → Except String α) (s : String) : Except Mismatch α :=
  match check s with
  | .ok value => .ok value
  | .error reason => .error (.rejected reason)

end Schema

end ScenarioSuite
