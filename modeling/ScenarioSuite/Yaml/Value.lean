import ScenarioSuite.Yaml.Reader

/-!
# YAML values

What a document means without any schema. A text that is no YAML value is malformed; that a
mapping has no key twice is part of this.

## Main definitions

* `Value`: the values.
* `Value.same`: equality, under which mappings may differ in the order of their pairs.
* `Value.ofDocument`: the value of a document.
-/

namespace ScenarioSuite.Yaml

/-- A YAML value. -/
inductive Value where
  | null
  | bool (b : Bool)
  | integer (n : Int)
  | real (x : Float)
  | text (s : String)
  | sequence (items : List Value)
  | mapping (pairs : List (Value × Value))
  | tagged (tag : String) (value : Value)

instance : Inhabited Value := ⟨.null⟩

namespace Value

mutual

/-- Equality of values. -/
def same : Value → Value → Bool
  | .null, .null => true
  | .bool a, .bool b => a == b
  | .integer a, .integer b => a == b
  | .real a, .real b => a == b || (a.isNaN && b.isNaN)
  | .text a, .text b => a == b
  | .sequence as, .sequence bs => sameItems as bs
  | .mapping as, .mapping bs => as.length == bs.length && samePairs as bs
  | .tagged s a, .tagged t b => s == t && same a b
  | _, _ => false

/-- Equality item by item. -/
def sameItems : List Value → List Value → Bool
  | [], [] => true
  | a :: as, b :: bs => same a b && sameItems as bs
  | _, _ => false

/-- Whether every pair is among others. -/
def samePairs : List (Value × Value) → List (Value × Value) → Bool
  | [], _ => true
  | (k, v) :: rest, bs => bs.any (fun b => same k b.1 && same v b.2) && samePairs rest bs

end

/-- Reads pairs in order. A key that came before is a fault. -/
def pairs (read : Node → Reader Value) :
    List (Value × Value) → List (Node × Node) → Reader (List (Value × Value))
  | seen, [] => return seen.reverse
  | seen, (key, value) :: rest => do
    let k ← read key
    if seen.any fun entry => same k entry.1 then Reader.refuse .duplicateKey
    else do
      let v ← read value
      pairs read ((k, v) :: seen) rest

/-- The value of a scalar. -/
def ofMeaning : Meaning → Reader Value
  | .null => return .null
  | .bool b => return .bool b
  | .integer n => return .integer n
  | .wide _ => Reader.refuse .badScalar
  | .real x => return .real x
  | .text s => return .text s

/-- Puts the tag that names a choice around a value. -/
def withTag (tag : Option String) (value : Value) : Value :=
  match choice? tag with
  | some name => .tagged name value
  | none => value

/-- The tag of a scalar, unless it names a choice. -/
def plainTag (tag : Option String) : Option String :=
  if (choice? tag).isSome then none else tag

/-- Reads a value. -/
def read : Nat → Node → Reader Value
  | depth, node => do
    match ← Reader.resolve node with
    | .scalar tag style s =>
      withTag tag <$> (Reader.ofCheck (Meaning.ofScalar (plainTag tag) style s) >>= ofMeaning)
    | .sequence tag nodes =>
      match depth with
      | 0 => Reader.refuse .tooDeep
      | depth + 1 => do
        let values ← Reader.items (fun _ => read depth) [] 0 nodes
        return withTag tag (.sequence values)
    | .mapping tag entries =>
      match depth with
      | 0 => Reader.refuse .tooDeep
      | depth + 1 => do
        let values ← pairs (read depth) [] entries
        return withTag tag (.mapping values)
    | .alias _ => Reader.refuse .unexpectedToken

/-- The value of a document. -/
def ofDocument (document : Document) : Except Fault Value :=
  match (read Reader.depthLimit document.root).run document with
  | .ok value => .ok value
  | .error ⟨.fault f, _⟩ => .error f
  | .error ⟨.mismatch _, _⟩ => .error .badScalar

end Value

end ScenarioSuite.Yaml
