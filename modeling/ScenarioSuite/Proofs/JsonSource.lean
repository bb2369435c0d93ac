import ScenarioSuite.Proofs.JsonReading
import ScenarioSuite.Yaml.Token

/-!
# JSON texts with their layout

One JSON value is written in many ways: with blanks between the parts, with characters escaped or
not, with digits behind a point. A source is a value as it is written.

## Main definitions

* `Json.Source`: a value as it is written, with its items and its members.
* `Json.Source.chars`: the text of a source.
* `Json.Source.json`, `Json.Source.height`: the value, and how deep its containers nest.
* `Json.Literal.value?`: the number that a literal stands for.
* `Json.File`: a source with blanks around it.
-/

namespace ScenarioSuite.Json

/-! ## Blanks -/

/-- A blank between the parts of a text. -/
inductive Blank where
  | space
  | tab
  | newline
  | carriageReturn
deriving DecidableEq

/-- The blank as a character. -/
def Blank.char : Blank → Char
  | .space => ' '
  | .tab => '\t'
  | .newline => '\n'
  | .carriageReturn => '\r'

/-- Blanks between two parts. -/
abbrev Layout := List Blank

/-- The text of blanks. -/
def Layout.chars (g : Layout) : List Char :=
  g.map Blank.char

/-! ## Strings -/

/-- A hexadecimal digit, with letters of either case. -/
structure HexDigit where
  char : Char
  value : Nat
  spells : hexDigit? char = some value

/-- A character of a string as it is written. -/
inductive Piece where
  /-- The character itself. -/
  | raw (c : Char) (plain : 32 ≤ c.toNat ∧ c ≠ '"' ∧ c ≠ '\\')
  /-- A letter behind a backslash. -/
  | letter (l c : Char) (spells : Reader.escapedLetter? l = some c)
  /-- The number of the character. -/
  | number (a b c d : HexDigit)

namespace Piece

/-- The number in four hexadecimal digits. -/
def code (a b c d : HexDigit) : Nat :=
  ((a.value * 16 + b.value) * 16 + c.value) * 16 + d.value

/-- The text of a piece. -/
def chars : Piece → List Char
  | .raw c _ => [c]
  | .letter l _ _ => ['\\', l]
  | .number a b c d => ['\\', 'u', a.char, b.char, c.char, d.char]

/-- The character that a piece stands for. A surrogate alone stands for none. -/
def char : Piece → Char
  | .raw c _ => c
  | .letter _ c _ => c
  | .number a b c d => Char.ofNat (code a b c d)

end Piece

/-- The text of a string. -/
def quoted (pieces : List Piece) : List Char :=
  '"' :: (pieces.flatMap Piece.chars ++ ['"'])

/-- What a string says. -/
def spelled (pieces : List Piece) : String :=
  String.ofList (pieces.map Piece.char)

/-! ## Numbers -/

/-- Decimal digits. -/
structure Digits where
  chars : List Char
  isDigit : ∀ c ∈ chars, c.isDigit

/-- The values of the digits. -/
def Digits.values (ds : Digits) : List Nat :=
  ds.chars.map fun c => c.toNat - 48

/-- A power of ten. -/
structure Exponent where
  mark : Char
  isMark : mark = 'e' ∨ mark = 'E'
  /-- Whether a sign is written, and whether it is a minus. -/
  sign : Option Bool
  digits : Digits

/-- A number as it is written. -/
structure Literal where
  negative : Bool
  whole : Nat
  fraction : Option Digits
  exponent : Option Exponent

namespace Literal

/-- The sign of a power of ten. -/
def signChars : Option Bool → List Char
  | none => []
  | some false => ['+']
  | some true => ['-']

/-- The text of a fraction. -/
def fractionChars : Option Digits → List Char
  | some ds => '.' :: ds.chars
  | none => []

/-- The text of a power of ten. -/
def exponentChars : Option Exponent → List Char
  | some e => e.mark :: (signChars e.sign ++ e.digits.chars)
  | none => []

/-- The text of a literal behind its sign. -/
def unsigned (l : Literal) : List Char :=
  Nat.toDigits 10 l.whole ++ (fractionChars l.fraction ++ exponentChars l.exponent)

/-- The text of a literal. -/
def chars (l : Literal) : List Char :=
  if l.negative then '-' :: l.unsigned else l.unsigned

/-- The number of digits, if it has no more than 31 bits. -/
def power? : Nat → List Nat → Option Nat
  | n, [] => some n
  | n, d :: ds => if n * 10 + d < Nat.pow 2 31 then power? (n * 10 + d) ds else none

/-- The digits that fit into 64 bits, the power of ten they are multiplied with, and whether the
literal may be an integer. -/
def parts (l : Literal) : Nat × Int × Bool :=
  let fraction := (l.fraction.map Digits.values).getD []
  let (whole, excess) :=
    Number.gather 0 ((Nat.toDigits 10 l.whole).map fun c => c.toNat - 48)
  let (significand, dropped) := Number.gather whole fraction
  (significand, excess.length - ((fraction.length - dropped.length : Nat) : Int),
    l.fraction.isNone && excess.isEmpty)

/-- The number that a literal stands for, unless it is too great. -/
def value? (l : Literal) : Option Number :=
  let (significand, exponent, isWhole) := l.parts
  match l.exponent with
  | some e =>
    let down := e.sign == some true
    match power? 0 e.digits.values with
    | some power =>
      (Number.scale? significand (if down then exponent - power else exponent + power)).map
        (Number.signed l.negative)
    | none => if !down && significand != 0 then none else some (Number.signed l.negative 0)
  | none =>
    if isWhole then some (Number.ofSignificand l.negative significand)
    else (Number.scale? significand exponent).map (Number.signed l.negative)

end Literal

/-! ## Values -/

mutual

/-- A value as it is written. -/
inductive Source where
  | null
  | bool (b : Bool)
  | number (l : Literal)
  | string (pieces : List Piece)
  | array (inside : Layout) (items : Items)
  | object (inside : Layout) (members : Members)

/-- The items of an array, each with the blanks around it. -/
inductive Items where
  | nil
  | cons (before : Layout) (item : Source) (after : Layout) (rest : Items)

/-- The members of an object, each with the blanks around its name and around its value. -/
inductive Members where
  | nil
  | cons (before : Layout) (name : List Piece) (mid behind : Layout) (value : Source)
      (after : Layout) (rest : Members)

end

mutual

/-- The text of a source. -/
def Source.chars : Source → List Char
  | .null => ['n', 'u', 'l', 'l']
  | .bool true => ['t', 'r', 'u', 'e']
  | .bool false => ['f', 'a', 'l', 's', 'e']
  | .number l => l.chars
  | .string pieces => quoted pieces
  | .array inside items => '[' :: (inside.chars ++ (items.chars true ++ [']']))
  | .object inside members => '\x7b' :: (inside.chars ++ (members.chars true ++ ['\x7d']))

/-- The text of items, with a comma in front unless they are the first. -/
def Items.chars : Items → Bool → List Char
  | .nil, _ => []
  | .cons before item after rest, first =>
    Reader.comma first ++ (before.chars ++ (item.chars ++ (after.chars ++ rest.chars false)))

/-- The text of members, with a comma in front unless they are the first. -/
def Members.chars : Members → Bool → List Char
  | .nil, _ => []
  | .cons before name mid behind value after rest, first =>
    Reader.comma first ++ (before.chars ++ (quoted name ++ (mid.chars ++
      ':' :: (behind.chars ++ (value.chars ++ (after.chars ++ rest.chars false))))))

end

mutual

/-- The value of a source. A number that is too great has none, and null stands for it. -/
def Source.json : Source → Json
  | .null => .null
  | .bool b => .bool b
  | .number l => (l.value?.map Json.number).getD .null
  | .string pieces => .string (spelled pieces)
  | .array _ items => .array items.jsons
  | .object _ members => objectOf members.jsons

/-- The values of items. -/
def Items.jsons : Items → List Json
  | .nil => []
  | .cons _ item _ rest => item.json :: rest.jsons

/-- The names and values of members. -/
def Members.jsons : Members → List (String × Json)
  | .nil => []
  | .cons _ name _ _ value _ rest => (spelled name, value.json) :: rest.jsons

end

mutual

/-- How deep containers nest. -/
def Source.height : Source → Nat
  | .array _ items => items.height + 1
  | .object _ members => members.height + 1
  | _ => 0

/-- How deep containers nest in items. -/
def Items.height : Items → Nat
  | .nil => 0
  | .cons _ item _ rest => max item.height rest.height

/-- How deep containers nest in members. -/
def Members.height : Members → Nat
  | .nil => 0
  | .cons _ _ _ _ value _ rest => max value.height rest.height

end

/-- The items without the blanks. -/
def Items.sources : Items → List Source
  | .nil => []
  | .cons _ item _ rest => item :: rest.sources

/-- The names and values of members without the blanks. -/
def Members.entries : Members → List (String × Source)
  | .nil => []
  | .cons _ name _ _ value _ rest => (spelled name, value) :: rest.entries

/-- Induction over items alone. -/
@[elab_as_elim]
theorem Items.induction {motive : Items → Prop} (nil : motive .nil)
    (cons : ∀ before item after rest, motive rest → motive (.cons before item after rest)) :
    (items : Items) → motive items
  | .nil => nil
  | .cons before item after rest => cons before item after rest (induction nil cons rest)

/-- Induction over members alone. -/
@[elab_as_elim]
theorem Members.induction {motive : Members → Prop} (nil : motive .nil)
    (cons : ∀ before name mid behind value after rest, motive rest →
      motive (.cons before name mid behind value after rest)) :
    (members : Members) → motive members
  | .nil => nil
  | .cons before name mid behind value after rest =>
    cons before name mid behind value after rest (induction nil cons rest)

/-- Induction over a source: a container has the property if everything in it has. -/
@[elab_as_elim]
theorem Source.induction {motive : Source → Prop} (null : motive .null)
    (bool : ∀ b, motive (.bool b)) (number : ∀ l, motive (.number l))
    (string : ∀ pieces, motive (.string pieces))
    (array : ∀ inside items, (∀ item ∈ items.sources, motive item) → motive (.array inside items))
    (object : ∀ inside members, (∀ m ∈ members.entries, motive m.2) →
      motive (.object inside members)) (src : Source) : motive src := by
  refine @Source.rec motive (fun items => ∀ item ∈ items.sources, motive item)
    (fun members => ∀ m ∈ members.entries, motive m.2)
    null bool number string array object (by simp [Items.sources]) ?_ (by simp [Members.entries]) ?_
    src
  · intro _ item _ rest hitem hrest
    exact List.forall_mem_cons.2 ⟨hitem, hrest⟩
  · intro _ name _ _ value _ rest hvalue hrest
    exact List.forall_mem_cons.2 ⟨hvalue, hrest⟩

/-! ## What YAML reads alike -/

/-- Whether a blank leaves the line. -/
def Blank.isBreak : Blank → Bool
  | .newline | .carriageReturn => true
  | _ => false

/-- Whether YAML reads a piece as JSON does. Some characters may not stand for themselves or end a
line in YAML, and a character beyond U+FFFF is not written as a pair of surrogates. -/
def Piece.isPortable : Piece → Bool
  | .raw c _ => Yaml.isAllowed c && !Yaml.isBreak c
  | .letter .. => true
  | .number a b c d => code a b c d < 0xD800 || 0xDFFF < code a b c d

/-- Whether YAML takes a string for a name, with these blanks in front of the colon: both are on one
line and not too long. -/
def isPortableName (name : List Piece) (mid : Layout) : Bool :=
  name.all Piece.isPortable && mid.all (!·.isBreak) &&
    (quoted name).length + mid.length ≤ Yaml.Lexer.longestKey

mutual

/-- Whether YAML reads a source as JSON does, if it reads its numbers so. -/
def Source.isPortable : Source → Bool
  | .string pieces => pieces.all Piece.isPortable
  | .array _ items => items.isPortable
  | .object _ members => members.isPortable
  | _ => true

/-- Whether YAML reads items as JSON does. -/
def Items.isPortable : Items → Bool
  | .nil => true
  | .cons _ item _ rest => item.isPortable && rest.isPortable

/-- Whether YAML reads members as JSON does. -/
def Members.isPortable : Members → Bool
  | .nil => true
  | .cons _ name mid _ value _ rest =>
    isPortableName name mid && value.isPortable && rest.isPortable

end

/-- A source with blanks around it. -/
structure File where
  before : Layout
  root : Source
  after : Layout

/-- The text of a file. -/
def File.text (f : File) : String :=
  String.ofList (f.before.chars ++ (f.root.chars ++ f.after.chars))

end ScenarioSuite.Json
