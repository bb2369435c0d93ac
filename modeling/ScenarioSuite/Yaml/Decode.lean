import ScenarioSuite.Json.Basic
import ScenarioSuite.Schema.Basic
import ScenarioSuite.Yaml.Value

/-!
# Reading YAML by a schema

A text takes a scalar as it is written; where nothing is written, a collection is empty and an
optional value is missing. A text is malformed if it is no YAML value; otherwise an error tells
what does not fit the schema, and where.

## Main definitions

* `Yaml.wording`: the words of messages about YAML.
* `Schema.readYaml`: a value of the schema.
* `Schema.parseYaml`: the value of a whole text.
-/

namespace ScenarioSuite

open Yaml (Reader Place Node Meaning)
open Yaml.Reader

namespace Yaml

/-- The words of messages about YAML. -/
def wording : Schema.Wording where
  null := "unit value"
  real := Decimal.write none

/-- Why a text is not read. -/
inductive Error where
  /-- The text is no YAML. -/
  | malformed (fault : Fault)
  /-- The text is YAML and does not fit the schema. -/
  | mismatch (m : Schema.Mismatch) (place : Option Place)

/-- The error in words. The root needs no place. -/
def Error.message : Error → String
  | .malformed fault => fault.message
  | .mismatch m place =>
    (match place with
      | none | some [] => ""
      | some place => place.text ++ ": ") ++ m.message wording

/-- A real number in JSON, which has only finite ones. -/
def jsonOfReal (x : Float) : Json :=
  if x.isFinite then .number (.real x) else .null

/-- The meaning of a scalar in JSON, if JSON has it. -/
def jsonOfMeaning : Meaning → Option Json
  | .null => some .null
  | .bool b => some (.bool b)
  | .integer n => some (.ofInt n)
  | .wide _ => none
  | .real x => some (jsonOfReal x)
  | .text s => some (.string s)

/-- A scalar in JSON. -/
def jsonOfScalar (wanted : String) (tag : Option String) (style : Style) (s : String) :
    Reader Json := do
  let m ← ofCheck (Meaning.ofScalar tag style s)
  match jsonOfMeaning m with
  | some json => return json
  | none => fail (.kind m.found wanted)

/-- What a JSON value is called. -/
def jsonWanted : String := "any valid JSON value"

/-- Reads pairs in order, the key of the first as a text of another name. -/
def jsonPairs (read : Place → Node → Reader Json) (place : Place) :
    Bool → List (Node × Node) → Reader (List (String × Json))
  | _, [] => return []
  | first, (key, value) :: rest => do
    let name ← text (if first then "a string key" else "a string") place key
    let json ← read (placeBehind key place) value
    return (name, json) :: (← jsonPairs read place false rest)

/-- Reads any JSON value. -/
def readJson : Nat → Place → Node → Reader Json
  | depth, place, node => located place do
    match ← resolve node with
    | .scalar tag style s =>
      if (choice? tag).isSome then fail (.kind .choice jsonWanted)
      else jsonOfScalar jsonWanted tag style s
    | .sequence tag nodes =>
      if (choice? tag).isSome then fail (.kind .choice jsonWanted)
      else match depth with
        | 0 => refuse .tooDeep
        | depth + 1 => .array <$> items (readJson depth) place 0 nodes
    | .mapping tag pairs =>
      if (choice? tag).isSome then fail (.kind .choice jsonWanted)
      else match depth with
        | 0 => refuse .tooDeep
        | depth + 1 => Json.objectOf <$> jsonPairs (readJson depth) place true pairs
    | .alias _ => refuse .unexpectedToken

/-- Reads pairs in order. There is no object if a key is not a text, but everything is read. -/
def objectPairs (read : Place → Node → Reader (Option Json)) (place : Place) :
    List (Node × Node) → Reader (Option (List (String × Json)))
  | [] => return some []
  | (key, value) :: rest => do
    let name ← read place key
    let json ← read (placeBehind key place) value
    let others ← objectPairs read place rest
    match name, json, others with
    | some (.string name), some json, some others => return some ((name, json) :: others)
    | _, _, _ => return none

/-- Reads any value whose kind decides between alternatives. There is no JSON if a key of a mapping
in it is not a text. -/
def readAlternative : Nat → Place → Node → Reader (Option Json)
  | depth, place, node => located place do
    match ← resolve node with
    | .scalar tag style s =>
      if (choice? tag).isSome then fail .taggedAlternative
      else some <$> jsonOfScalar "any value" tag style s
    | .sequence tag nodes =>
      if (choice? tag).isSome then fail .taggedAlternative
      else match depth with
        | 0 => refuse .tooDeep
        | depth + 1 => do
          let found ← items (readAlternative depth) place 0 nodes
          return (found.mapM id).map .array
    | .mapping tag pairs =>
      if (choice? tag).isSome then fail .taggedAlternative
      else match depth with
        | 0 => refuse .tooDeep
        | depth + 1 => do
          let found ← objectPairs (readAlternative depth) place pairs
          return found.map Json.objectOf
    | .alias _ => refuse .unexpectedToken

/-- Whether a scalar can be a number: if it is plain, or literal with a tag that says so. -/
def canBe (type : String) (tag : Option String) (style : Style) : Bool :=
  style == .plain || (style == .literal && tag == some (Meaning.corePrefix ++ type))

/-- Reads a natural number of so many bits. -/
def readNatural (bits : Nat) (place : Place) (node : Node) : Reader Nat :=
  located place do
    let node ← resolve node
    match node with
    | .scalar tag style s =>
      match (unsigned? s.toList).filter (· < Nat.pow 2 64) with
      | some n =>
        if canBe "int" tag style then ofCheck (Schema.checkNatural bits n)
        else fail (unwanted node (Schema.naturalType bits))
      | none => fail (unwanted node (Schema.naturalType bits))
    | other => fail (unwanted other (Schema.naturalType bits))

/-- Reads a truth value. -/
def readFlag (place : Place) (node : Node) : Reader Bool :=
  located place do
    let node ← resolve node
    match node with
    | .scalar tag style s =>
      match bool? s with
      | some b =>
        if canBe "bool" tag style then return b else fail (unwanted node "a boolean")
      | none => fail (unwanted node "a boolean")
    | other => fail (unwanted other "a boolean")

/-- Whether a scalar stands for nothing: if it is plain, and empty or one of the words for it. -/
def isNullScalar (tag : Option String) (style : Style) (s : String) : Reader Bool :=
  if style != .plain then return false
  else match tag with
    | none => return s.isEmpty || isNull s
    | some tag =>
      if tag == Meaning.corePrefix ++ "null" then
        if isNull s then return true else fail (.value (.text s) "null")
      else return false

/-- Reads nothing, behind a tag that names a choice. -/
def readNothing (place : Place) (node : Node) : Reader Unit :=
  located place do
    match node with
    | .scalar _ style s =>
      if style == .plain && (s.isEmpty || isNull s) then return ()
      else fail (.kind (.text s) "unit")
    | other => fail (unwanted other "unit")

/-- Reads a known name: a scalar, or a tag with nothing behind it. -/
def readName {α : Type} (known : List (String × α)) (place : Place) (node : Node) : Reader α := do
  let node ← resolve node
  let tag := match node with
    | .scalar tag _ _ | .sequence tag _ | .mapping tag _ => tag
    | .alias _ => none
  match choice? tag with
  | some name => do
    let result ← ofCheck (Schema.checkName known name)
    readNothing place node
    return result
  | none =>
    located place do
      match node with
      | .scalar _ _ s => ofCheck (Schema.checkName known s)
      | other => fail (unwanted other "a YAML tag starting with '!'")

/-- Reads the pairs of a mapping with texts as keys. -/
def dictPairs {α : Type} (read : Place → Node → Reader α) (place : Place) :
    List (Node × Node) → Reader (List (String × α))
  | [] => return []
  | (key, value) :: rest => do
    let name ← text "a string" place key
    let result ← read (placeBehind key place) value
    return (name, result) :: (← dictPairs read place rest)

/-- Reads the pairs of a mapping with the fields of a record as keys. -/
def recordPairs {σ : Type} (member : σ → String → Place → Node → Reader σ) (place : Place) :
    σ → List (Node × Node) → Reader σ
  | slots, [] => return slots
  | slots, (key, value) :: rest => do
    let name ← text "field identifier" place key
    recordPairs member place (← member slots name (placeBehind key place) value) rest

end Yaml

open Yaml

mutual

/-- Reads a value of the schema. -/
def Schema.readYaml : {α : Type} → Schema α → Nat → Place → Node → Reader α
  | _, .text, _, place, node => text "a string" place node
  | _, .flag, _, place, node => readFlag place node
  | _, .natural bits, _, place, node => readNatural bits place node
  | _, .json, depth, place, node => Yaml.readJson depth place node
  | _, .name known, _, place, node => readName known place node
  | _, .textOr type ofText ofJson, depth, place, node => do
    match ← readAlternative depth place node with
    | some (.string s) => return ofText s
    | some json => return ofJson json
    | none => fail (.noAlternative type)
  | _, .checked check, _, place, node => do
    let s ← text "a string" place node
    ofCheck (Schema.checkText check s)
  | _, .optional inner, depth, place, node => do
    let node ← resolve node
    let missing ← match node with
      | .scalar tag style s => isNullScalar tag style s
      | _ => pure false
    if missing then return none else some <$> inner.readYaml depth place node
  | _, .list inner, depth, place, node => located place do
    let node ← resolve node
    match node with
    | .sequence _ nodes =>
      enter (fun depth => items (fun place node => inner.readYaml depth place node) place 0 nodes)
        depth
    | other => if isNothing other then return [] else fail (unwanted other "a sequence")
  | _, .dict inner, depth, place, node => located place do
    let node ← resolve node
    match node with
    | .mapping _ pairs =>
      Dict.ofList <$> enter
        (fun depth => dictPairs (fun place node => inner.readYaml depth place node) place pairs)
        depth
    | other => if isNothing other then return Dict.empty else fail (unwanted other "a map")
  | _, .record type fields build, depth, place, node => located place do
    let node ← resolve node
    let slots ← match node with
      | .mapping _ pairs =>
        enter (fun depth =>
          recordPairs (fun slots name place node => fields.setYaml depth slots name place node)
            place fields.noSlots pairs) depth
      | other =>
        if isNothing other then pure fields.noSlots else fail (unwanted other ("struct " ++ type))
    build <$> ofCheck (fields.finish slots)

/-- Puts the value of a named field in its place; a value of no field is passed over. -/
def Fields.setYaml : {β : Type} → (fields : Fields β) → Nat → fields.Slots → String → Place →
    Node → Reader fields.Slots
  | _, .nil, _, slots, _, _, _ => return slots
  | _, .cons field schema _ rest, depth, slots, key, place, node => do
    let (slot, slots) : Option _ × rest.Slots := slots
    if field = key then
      if slot.isSome then fail (.duplicate field)
      else return (some (← schema.readYaml depth place node), slots)
    else return (slot, ← rest.setYaml depth slots key place node)

end

/-- The value of a whole text. -/
def Schema.parseYaml {α : Type} (schema : Schema α) (s : String) : Except Yaml.Error α := do
  match Document.ofText s with
  | .error fault => throw (.malformed fault)
  | .ok document =>
    match (schema.readYaml depthLimit [] document.root).run document with
    | .ok value => return value
    | .error e =>
      match Value.ofDocument document, e.cause with
      | .error fault, _ => throw (.malformed fault)
      | .ok _, .fault fault => throw (.malformed fault)
      | .ok _, .mismatch m => throw (.mismatch m e.place)

end ScenarioSuite
