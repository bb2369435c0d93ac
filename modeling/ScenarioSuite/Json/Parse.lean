import ScenarioSuite.Json.Reader

/-!
# Reading JSON texts by a schema

A text is read by a schema in one pass, so the first fault in the text is the one reported, be it
in the text or in what it says. What no field wants is only passed over.

## Main definitions

* `Schema.readJson`: a value of the schema, from where the cursor stands.
* `Schema.parseJson`, `Schema.parseJsonBytes`: the value of a whole text.
-/

namespace ScenarioSuite

open Json (Reader)
open Json.Reader

namespace Schema

/-- Fails because another kind of value was wanted. The value is read first when it is no
container, and its own faults come first. -/
def readOther {α : Type} (wanted : String) : Reader α := do
  match ← peek with
  | none => failAhead .wantedValue
  | some (.stray _) => failAhead .wantedValue
  | some (.char c) =>
    if c = 'n' then do skip; word ['u', 'l', 'l']; refuse .null
    else if c = 't' then do skip; word ['r', 'u', 'e']; refuse (.bool true)
    else if c = 'f' then do skip; word ['a', 'l', 's', 'e']; refuse (.bool false)
    else if c = '-' then do skip; refuse (← number true).found
    else if c.isDigit then refuse (← number false).found
    else if c = '"' then do skip; refuse (.text (← string))
    else if c = '[' then refuse .sequence
    else if c = '\x7b' then refuse .mapping
    else failAhead .wantedValue
where
  refuse (found : Found) : Reader α := located (mismatch (.kind found wanted))

/-- The next character behind the blanks; the text must not end there. A byte that is part of no
character counts as one that begins no value. -/
def peekValue : Reader Char := do
  match ← peekItem with
  | none => failAhead .endInValue
  | some (.char c) => pure c
  | some (.stray _) => pure '\uFFFD'

/-- A text. -/
def readText (wanted : String) : Reader String := do
  if (← peekValue) = '"' then do skip; string else readOther wanted

/-- A truth value. -/
def readFlag : Reader Bool := do
  let c ← peekValue
  if c = 't' then do skip; word ['r', 'u', 'e']; return true
  else if c = 'f' then do skip; word ['a', 'l', 's', 'e']; return false
  else readOther "a boolean"

/-- A natural number of so many bits. -/
def readNatural (bits : Nat) : Reader Nat := do
  let c ← peekValue
  if c = '-' then do
    skip
    let n ← number true
    located (ofCheck (naturalOfNumber bits n))
  else if c.isDigit then do
    let n ← number false
    located (ofCheck (naturalOfNumber bits n))
  else readOther (naturalType bits)

/-- The word for nothing. -/
def readNull : Reader Unit := do
  if (← peekValue) = 'n' then do skip; word ['u', 'l', 'l'] else readOther "unit"

/-- A known name, alone or as the only member of an object that binds it to null. -/
def readName {α : Type} (depth : Nat) (known : List (String × α)) : Reader α := do
  let c ← peekValue
  if c = '"' then do
    let key ← readText "variant identifier"
    located (ofCheck (checkName known key))
  else if c = '\x7b' then
    if depth = 0 then failAhead .tooDeep
    else do
      skip
      let key ← readText "variant identifier"
      let result ← located (ofCheck (checkName known key))
      colon
      readNull
      match ← peekItem with
      | none => fail .endInObject
      | some (.char '\x7d') => do skip; return result
      | some _ => fail .wantedValue
  else failAhead .wantedValue

/-- Enters a container, which must not be nested too deep. -/
def enter {α : Type} (depth : Nat) (inside : Nat → Reader α) (close : Reader Unit) : Reader α :=
  match depth with
  | 0 => failAhead .tooDeep
  | depth + 1 => do
    skip
    enclosed (inside depth) close

/-- The members of a record up to its end. -/
def readMembers {σ : Type} (member : σ → String → Reader σ) : Nat → Bool → σ → Reader σ
  | 0, _, slots => pure slots
  | fuel + 1, first, slots => do
    match ← nextKey first with
    | some key => readMembers member fuel false (← member slots key)
    | none => return slots

end Schema

open Schema

mutual

/-- A value of the schema, with containers nested at most so deep. -/
def Schema.readJson : {α : Type} → Schema α → Nat → Reader α
  | _, .text, _ => readText "a string"
  | _, .flag, _ => readFlag
  | _, .natural bits, _ => readNatural bits
  | _, .json, depth => Reader.value depth
  | _, .name known, depth => readName depth known
  | _, .textOr _ ofText ofJson, depth => do
    match ← Reader.value depth with
    | .string s => return ofText s
    | value => return ofJson value
  | _, .checked check, _ => do
    let s ← readText "a string"
    ofCheck (checkText check s)
  | _, .optional inner, depth => do
    match ← peekItem with
    | some (.char 'n') => do skip; word ['u', 'l', 'l']; return none
    | _ => some <$> inner.readJson depth
  | _, .list inner, depth => do
    if (← peekValue) = '[' then
      enter depth (fun depth => do items (inner.readJson depth) (← Reader.fuel) true) closeArray
    else readOther "a sequence"
  | _, .dict inner, depth => do
    if (← peekValue) = '\x7b' then
      Dict.ofList <$> enter depth
        (fun depth => do members (inner.readJson depth) (← Reader.fuel) true) closeObject
    else readOther "a map"
  | _, .record type fields build, depth => do
    let c ← peekValue
    if c = '\x7b' then
      enter depth (fun depth => do
        let slots ← readMembers (fun slots key => fields.readMember depth slots key)
          (← Reader.fuel) true fields.noSlots
        build <$> ofCheck (fields.finish slots)) closeObject
    else if c = '[' then
      enter depth (fun depth => build <$> fields.readItems type fields.count depth 0 true)
        closeArray
    else readOther ("struct " ++ type)

/-- A member behind its name, into its field's place; a member of no field is passed over. -/
def Fields.readMember : {β : Type} → (fields : Fields β) → Nat → fields.Slots → String →
    Reader fields.Slots
  | _, .nil, _, slots, _ => do
    colon
    skipValue
    return slots
  | _, .cons field schema _ rest, depth, slots, key => do
    let (slot, slots) : Option _ × rest.Slots := slots
    if field = key then
      if slot.isSome then mismatch (.duplicate field)
      else do
        colon
        return (some (← schema.readJson depth), slots)
    else return (slot, ← rest.readMember depth slots key)

/-- The fields in order from the items of an array. -/
def Fields.readItems (type : String) (total : Nat) : {β : Type} → Fields β → Nat → Nat →
    Bool → Reader β
  | _, .nil, _, _, _ => return ()
  | _, .cons field schema absent rest, depth, position, first => do
    if ← nextItem first then
      let value ← schema.readJson depth
      return (value, ← rest.readItems type total depth (position + 1) false)
    else ofCheck ((Fields.cons field schema absent rest).finishSequence type total position)

end

/-- The value of a whole text. -/
def Schema.parseJson {α : Type} (schema : Schema α) (s : String) : Except Json.Error α :=
  Reader.run (schema.readJson Reader.depthLimit) (Text.Utf8.symbolsOf s)

/-- The value of a whole text in bytes. -/
def Schema.parseJsonBytes {α : Type} (schema : Schema α) (bytes : List UInt8) : Except Json.Error α :=
  Reader.run (schema.readJson Reader.depthLimit) (Text.Utf8.symbols bytes)

end ScenarioSuite
