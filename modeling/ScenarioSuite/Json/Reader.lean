import ScenarioSuite.Json.Cursor

/-!
# Reading JSON texts

## Main definitions

* `Reader.number`, `Reader.string`, `Reader.value`: the parts of a text. Containers nest at most
  127 deep.
* `Reader.skipValue`: passes over a value and looks only at its outline: no limits on depth or on
  the size of numbers, and any code points in strings.
* `Reader.nextItem`, `Reader.nextKey`, `Reader.enclosed`: the frame of containers, also for reading
  by a schema.
* `Json.parse`, `Json.parseBytes`: the value of a whole text.

## Numbers

The digits of a number are gathered into 64 bits for as long as they fit. Further digits before
the point only raise the power of ten, and further digits behind it are dropped. The product with,
or quotient by, the power of ten is then taken on floating-point numbers.
-/

namespace ScenarioSuite.Json

open Text.Utf8 (Symbol)

/-- The value of a decimal digit. -/
def digit? : Symbol → Option Nat
  | .char c => if '0' ≤ c ∧ c ≤ '9' then some (c.toNat - 48) else none
  | .stray _ => none

/-- The value of a hexadecimal digit. -/
def hexDigit? (c : Char) : Option Nat :=
  if '0' ≤ c ∧ c ≤ '9' then some (c.toNat - 48)
  else if 'a' ≤ c ∧ c ≤ 'f' then some (c.toNat - 87)
  else if 'A' ≤ c ∧ c ≤ 'F' then some (c.toNat - 55)
  else none

namespace Number

/-- Gathers digits while they fit into 64 bits, and gives the others back. -/
def gather : Nat → List Nat → Nat × List Nat
  | significand, [] => (significand, [])
  | significand, digit :: rest =>
    if significand * 10 + digit < Nat.pow 2 64 then gather (significand * 10 + digit) rest
    else (significand, digit :: rest)

/-- A power of ten, rounded. -/
def powerOfTen (n : Nat) : Float := Float.ofScientific 1 false n

/-- Divides by a power of ten, in steps of `10 ^ 308` while the power is greater. -/
def scaleDown : Nat → Float → Nat → Float
  | 0, x, _ => x
  | steps + 1, x, exponent =>
    if exponent ≤ 308 then x / powerOfTen exponent
    else
      let x := x / powerOfTen 308
      if x == 0 then x else scaleDown steps x (exponent - 308)

/-- The real number of a significand and a power of ten, unless it is too great. -/
def scale? (significand : Nat) (exponent : Int) : Option Float :=
  let x := significand.toUInt64.toFloat
  if exponent < 0 then some (scaleDown 4 x exponent.natAbs)
  else if significand = 0 then some x
  else if 308 < exponent then none
  else
    let y := x * powerOfTen exponent.toNat
    if y.isInf then none else some y

/-- The real number with a sign. -/
def signed (negative : Bool) (x : Float) : Number :=
  .real (if negative then -x else x)

/-- A significand alone is an integer if 64 bits hold it; minus zero is a real number. -/
def ofSignificand (negative : Bool) (significand : Nat) : Number :=
  if !negative then .integer significand
  else if significand = 0 ∨ Nat.pow 2 63 < significand then
    signed true significand.toUInt64.toFloat
  else .integer (-significand)

end Number

namespace Reader

variable {α : Type}

/-- The letters of a word behind its first. -/
def word : List Char → Reader Unit
  | [] => pure ()
  | letter :: letters => do
    match ← peek with
    | none => fail .endInValue
    | some s => if s = .char letter then do skip; word letters else failBehind 1 .wantedWord

/-- The digits ahead. -/
def digits : Reader (List Nat) := fun c =>
  let (ds, c) := go c.rest c.position
  .ok ds c
where
  go : List Symbol → Position → List Nat × Cursor
  | [], p => ([], ⟨[], p⟩)
  | s :: rest, p =>
    match digit? s with
    | some d => let (ds, c) := go rest (p.after s); (d :: ds, c)
    | none => ([], ⟨s :: rest, p⟩)

/-- The digits before the point: a zero stands alone. An end here is a fault of the value, or of
the number when it is only passed over. -/
def wholeDigits (atEnd : Cause) : Reader (List Nat) := do
  match ← peek with
  | none => fail atEnd
  | some s =>
    match digit? s with
    | none => failBehind 1 .badNumber
    | some 0 => do
      skip
      match (← peek).bind digit? with
      | some _ => failAhead .badNumber
      | none => pure [0]
    | some _ => digits

/-- The digits behind the point, if there is one. -/
def fractionDigits (atEnd : Cause) : Reader (Option (List Nat)) := do
  match ← peek with
  | some (.char '.') => do
    skip
    match ← digits with
    | [] => do
      match ← peek with
      | none => failAhead atEnd
      | some _ => failAhead .badNumber
    | ds => pure (some ds)
  | _ => pure none

/-- Whether a power of ten follows; takes its letter and its sign, which is returned. -/
def exponentSign : Reader (Option Bool) := do
  match ← peek with
  | some (.char 'e') | some (.char 'E') => do
    skip
    match ← peek with
    | some (.char '+') => do skip; pure (some false)
    | some (.char '-') => do skip; pure (some true)
    | _ => pure (some false)
  | _ => pure none

/-- Fails unless a digit is ahead. -/
def wantDigit (atEnd : Cause) : Reader Unit := do
  match ← peek with
  | none => fail atEnd
  | some s => if (digit? s).isSome then pure () else failBehind 1 .badNumber

/-- The digits of a power of ten; none if they do not fit into 31 bits, and then a power that would
make the number too great fails at that digit. -/
def exponentDigits (tooGreat : Bool) : Reader (Option Nat) := fun c =>
  go c.rest c.position 0
where
  go : List Symbol → Position → Nat → EStateM.Result Error Cursor (Option Nat)
  | [], p, n => .ok (some n) ⟨[], p⟩
  | s :: rest, p, n =>
    match digit? s with
    | none => .ok (some n) ⟨s :: rest, p⟩
    | some d =>
      if n * 10 + d < Nat.pow 2 31 then go rest (p.after s) (n * 10 + d)
      else if tooGreat then .error ⟨.numberOutOfRange, some (p.after s)⟩ ⟨rest, p.after s⟩
      else .ok none (digits.go rest (p.after s)).2

/-- A number behind its sign. -/
def number (negative : Bool) : Reader Number := do
  let (significand, excess) := Number.gather 0 (← wholeDigits .endInValue)
  let fraction ← fractionDigits .endInValue
  let (significand, dropped) := Number.gather significand (fraction.getD [])
  let exponent : Int := excess.length - (((fraction.getD []).length - dropped.length : Nat) : Int)
  let finish (exponent : Int) : Reader Number :=
    match Number.scale? significand exponent with
    | some x => pure (Number.signed negative x)
    | none => fail .numberOutOfRange
  match ← exponentSign with
  | some down => do
    wantDigit .endInValue
    match ← exponentDigits (!down && significand != 0) with
    | some power => finish (if down then exponent - power else exponent + power)
    | none => pure (Number.signed negative 0)
  | none =>
    if fraction.isSome || !excess.isEmpty then finish exponent
    else pure (Number.ofSignificand negative significand)

/-- The number of four hexadecimal digits. -/
def hexDigits : Reader Nat := fun c =>
  let fault : EStateM.Result Error Cursor Nat :=
    match c.dropBytes? 4 with
    | none => .error ⟨.endInString, some c.last.position⟩ c.last
    | some c => .error ⟨.badEscape, some c.position⟩ c
  match c.rest with
  | .char h₁ :: .char h₂ :: .char h₃ :: .char h₄ :: rest =>
    match hexDigit? h₁, hexDigit? h₂, hexDigit? h₃, hexDigit? h₄ with
    | some d₁, some d₂, some d₃, some d₄ =>
      .ok (((d₁ * 16 + d₂) * 16 + d₃) * 16 + d₄)
        ⟨rest, ⟨c.position.line, c.position.column + 4⟩⟩
    | _, _, _, _ => fault
  | _ => fault

/-- Takes a character that must be ahead inside a pair of surrogates. -/
def pairPart (wanted : Char) : Reader Unit := do
  match ← peek with
  | none => fail .endInString
  | some s => if s = .char wanted then skip else failBehind 1 .endInSurrogates

/-- The character of an escape by number; surrogates come in pairs. -/
def escapedCodePoint : Reader Char := do
  let n ← hexDigits
  if 0xDC00 ≤ n ∧ n ≤ 0xDFFF then fail .loneSurrogate
  else if n < 0xD800 ∨ 0xDBFF < n then pure (Char.ofNat n)
  else do
    pairPart '\\'
    pairPart 'u'
    let m ← hexDigits
    if m < 0xDC00 ∨ 0xDFFF < m then fail .loneSurrogate
    else pure (Char.ofNat ((n - 0xD800) * 1024 + (m - 0xDC00) + 0x10000))

/-- The character of an escape by letter. -/
def escapedLetter? : Char → Option Char
  | '"' => some '"'
  | '\\' => some '\\'
  | '/' => some '/'
  | 'b' => some (Char.ofNat 8)
  | 'f' => some (Char.ofNat 12)
  | 'n' => some '\n'
  | 'r' => some '\r'
  | 't' => some '\t'
  | _ => none

/-- The character of an escape, behind the backslash. -/
def escaped : Reader Char := do
  match ← peek with
  | none => fail .endInString
  | some (.char 'u') => do skip; escapedCodePoint
  | some (.char c) =>
    match escapedLetter? c with
    | some result => do skip; pure result
    | none => failBehind 1 .badEscape
  | some _ => failBehind 1 .badEscape

/-- The characters up to the closing quote, in front of those gathered in reverse. The first byte
that is part of no character is found out at the closing quote. -/
def stringChars : Nat → List Char → Option Position → Reader String
  | 0, _, _ => fail .endInString
  | fuel + 1, gathered, firstStray => do
    match ← peek with
    | none => fail .endInString
    | some (.char '"') => do
      skip
      match firstStray with
      | none => pure (String.ofList gathered.reverse)
      | some place => throw ⟨.badCodePoint, some place⟩
    | some (.char '\\') => do
      skip
      let c ← escaped
      stringChars fuel (c :: gathered) firstStray
    | some (.char c) =>
      if c.toNat < 32 then failBehind 1 .controlCharacter
      else do skip; stringChars fuel (c :: gathered) firstStray
    | some (.stray _) => do
      let c ← get
      skip
      stringChars fuel gathered (firstStray <|> some c.ahead)

/-- A string behind its opening quote. -/
def string : Reader String := do
  stringChars (← fuel) [] none

/-- Whether an item follows in an array, behind its comma unless it is the first. -/
def nextItem (first : Bool) : Reader Bool := do
  match ← peekItem with
  | none => failAhead .endInList
  | some (.char ']') => pure false
  | some s =>
    if first then pure true
    else if s = .char ',' then do
      skip
      match ← peekItem with
      | none => failAhead .endInValue
      | some (.char ']') => failAhead .trailingComma
      | some _ => pure true
    else failAhead .wantedListEnd

/-- The name of the member that follows in an object, behind its comma unless it is the first. -/
def nextKey (first : Bool) : Reader (Option String) := do
  match ← peekItem with
  | none => failAhead .endInObject
  | some (.char '\x7d') => pure none
  | some s =>
    if first then
      if s = .char '"' then do skip; some <$> string else failAhead .keyNotString
    else if s = .char ',' then do
      skip
      match ← peekItem with
      | none => failAhead .endInValue
      | some (.char '"') => do skip; some <$> string
      | some (.char '\x7d') => failAhead .trailingComma
      | some _ => failAhead .keyNotString
    else failAhead .wantedObjectEnd

/-- The colon behind the name of a member. -/
def colon : Reader Unit := do
  match ← peekItem with
  | none => failAhead .endInObject
  | some (.char ':') => skip
  | some _ => failAhead .wantedColon

/-- The end of an array. -/
def closeArray : Reader Unit := do
  match ← peekItem with
  | none => failAhead .endInList
  | some (.char ']') => skip
  | some (.char ',') => do
    skip
    match ← peekItem with
    | some (.char ']') => failAhead .trailingComma
    | _ => failAhead .trailingCharacters
  | some _ => failAhead .trailingCharacters

/-- The end of an object. -/
def closeObject : Reader Unit := do
  match ← peekItem with
  | none => failAhead .endInObject
  | some (.char '\x7d') => skip
  | some (.char ',') => failAhead .trailingComma
  | some _ => failAhead .trailingCharacters

/-- The inside of a container and its end. An error of the inside that has no place gets the one
reached after trying to read the end. -/
def enclosed (inside : Reader α) (close : Reader Unit) : Reader α := fun c =>
  match inside c with
  | .ok a c => (close *> pure a) c
  | .error e c =>
    match close c with
    | .ok _ c => .error (e.locate c.position) c
    | .error _ c => .error (e.locate c.position) c

/-- The items of an array up to its end. -/
def items (item : Reader α) : Nat → Bool → Reader (List α)
  | 0, _ => pure []
  | fuel + 1, first => do
    if ← nextItem first then
      let a ← item
      return a :: (← items item fuel false)
    else return []

/-- The members of an object up to its end. -/
def members (item : Reader α) : Nat → Bool → Reader (List (String × α))
  | 0, _ => pure []
  | fuel + 1, first => do
    match ← nextKey first with
    | some key => do
      colon
      let a ← item
      return (key, a) :: (← members item fuel false)
    | none => return []

/-- A value whose items and members are read by a reader of their own, if it may have any. -/
def valueWith (inner : Option (Reader Json)) : Reader Json := do
  match ← peekItem with
  | none => failAhead .endInValue
  | some (.stray _) => failAhead .wantedValue
  | some (.char c) =>
    if c = 'n' then do skip; word ['u', 'l', 'l']; return .null
    else if c = 't' then do skip; word ['r', 'u', 'e']; return .bool true
    else if c = 'f' then do skip; word ['a', 'l', 's', 'e']; return .bool false
    else if c = '-' then do skip; .number <$> number true
    else if c.isDigit then .number <$> number false
    else if c = '"' then do skip; .string <$> string
    else if c = '[' then
      match inner with
      | none => failAhead .tooDeep
      | some item => do
        skip
        .array <$> enclosed (do items item (← fuel) true) closeArray
    else if c = '\x7b' then
      match inner with
      | none => failAhead .tooDeep
      | some item => do
        skip
        objectOf <$> enclosed (do members item (← fuel) true) closeObject
    else failAhead .wantedValue

/-- A value, with containers nested at most so deep. -/
def value : Nat → Reader Json
  | 0 => valueWith none
  | depth + 1 => valueWith (some (value depth))

/-- How deep containers nest. -/
def depthLimit : Nat := 127

/-- Passes over the rest of a number behind its sign. -/
def skipNumber : Reader Unit := do
  let _ ← wholeDigits .badNumber
  let _ ← fractionDigits .badNumber
  match ← exponentSign with
  | some _ => do
    wantDigit .badNumber
    let _ ← digits
    pure ()
  | none => pure ()

/-- Passes over a string behind its opening quote. -/
def skipString : Nat → Reader Unit
  | 0 => fail .endInString
  | fuel + 1 => do
    match ← peek with
    | none => fail .endInString
    | some (.char '"') => skip
    | some (.char '\\') => do
      skip
      match ← peek with
      | none => fail .endInString
      | some (.char 'u') => do
        skip
        let _ ← hexDigits
        skipString fuel
      | some (.char c) =>
        if (escapedLetter? c).isSome then do skip; skipString fuel
        else failBehind 1 .badEscape
      | some _ => failBehind 1 .badEscape
    | some (.char c) =>
      if c.toNat < 32 then fail .controlCharacter else do skip; skipString fuel
    | some (.stray _) => do skip; skipString fuel

/-- A container that has been entered. -/
inductive Frame where
  | list
  | object
deriving DecidableEq

mutual

/-- Passes over a value inside the containers, and over the rest of them. -/
def skipInside : Nat → List Frame → Reader Unit
  | 0, _ => fail .endInValue
  | fuel + 1, frames => do
    match ← peekItem with
    | none => failAhead .endInValue
    | some (.stray _) => failAhead .wantedValue
    | some (.char c) =>
      if c = 'n' then do skip; word ['u', 'l', 'l']; skipRest fuel frames true
      else if c = 't' then do skip; word ['r', 'u', 'e']; skipRest fuel frames true
      else if c = 'f' then do skip; word ['a', 'l', 's', 'e']; skipRest fuel frames true
      else if c = '-' then do skip; skipNumber; skipRest fuel frames true
      else if c.isDigit then do skipNumber; skipRest fuel frames true
      else if c = '"' then do skip; skipString (← Reader.fuel); skipRest fuel frames true
      else if c = '[' then do skip; skipRest fuel (.list :: frames) false
      else if c = '\x7b' then do skip; skipRest fuel (.object :: frames) false
      else failAhead .wantedValue

/-- Passes over the rest of the containers, behind a value or behind an opening bracket. -/
def skipRest : Nat → List Frame → Bool → Reader Unit
  | 0, _, _ => fail .endInValue
  | _ + 1, [], _ => pure ()
  | fuel + 1, frame :: frames, behindValue => do
    let close := match frame with
      | .list => ']'
      | .object => '\x7d'
    match ← peekItem with
    | none => failAhead (match frame with | .list => .endInList | .object => .endInObject)
    | some s =>
      if behindValue && s = .char ',' then do
        skip
        skipNext fuel frame frames
      else if s = .char close then do
        skip
        skipRest fuel frames true
      else if behindValue then
        failAhead (match frame with | .list => .wantedListEnd | .object => .wantedObjectEnd)
      else skipNext fuel frame frames

/-- Passes over the next item of the first container, with its name in an object, and over the
rest. -/
def skipNext : Nat → Frame → List Frame → Reader Unit
  | 0, _, _ => fail .endInValue
  | fuel + 1, .list, frames => skipInside fuel (.list :: frames)
  | fuel + 1, .object, frames => do
    match ← peekItem with
    | none => failAhead .endInObject
    | some (.char '"') => do
      skip
      skipString (← Reader.fuel)
      colon
      skipInside fuel (.object :: frames)
    | some _ => failAhead .keyNotString

end

/-- Passes over a value. -/
def skipValue : Reader Unit := do
  skipInside (3 * (← fuel)) []

/-- A value with nothing but blanks behind it. -/
def whole (r : Reader α) : Reader α := do
  let a ← r
  match ← peekItem with
  | none => pure a
  | some _ => failAhead .trailingCharacters

/-- The result of a reader on a whole text. -/
def run (r : Reader α) (symbols : List Symbol) : Except Error α :=
  match whole r (.start symbols) with
  | .ok a _ => .ok a
  | .error e _ => .error e

end Reader

/-- The value of a text. -/
def parse (s : String) : Except Error Json :=
  Reader.run (.value Reader.depthLimit) (Text.Utf8.symbolsOf s)

/-- The value of a text in bytes. -/
def parseBytes (bytes : List UInt8) : Except Error Json :=
  Reader.run (.value Reader.depthLimit) (Text.Utf8.symbols bytes)

end ScenarioSuite.Json
