import ScenarioSuite.Schema.Mismatch
import ScenarioSuite.Yaml.Node

/-!
# What a scalar means

A plain scalar without a tag is null, a truth value, an integer, a real number, or else a text. A
tag of the core types asks for one of them. Any other scalar is a text.

## Main definitions

* `Meaning`: what a scalar means.
* `Meaning.ofPlain`: the meaning of a plain scalar.
* `integer?`, `real?`, `bool?`, `isNull`: the forms of each type.
* `Meaning.ofScalar`: the meaning of any scalar, if it fits its tag.
-/

namespace ScenarioSuite.Yaml

/-- What a scalar means. -/
inductive Meaning where
  | null
  | bool (value : Bool)
  /-- An integer of at most 64 bits. -/
  | integer (value : Int)
  /-- An integer of more than 64 bits. -/
  | wide (value : Int)
  | real (value : Float)
  | text (value : String)

/-- The words for nothing. -/
def isNull (s : String) : Bool :=
  s == "null" || s == "Null" || s == "NULL" || s == "~"

/-- The words for truth values. -/
def bool? (s : String) : Option Bool :=
  if s == "true" || s == "True" || s == "TRUE" then some true
  else if s == "false" || s == "False" || s == "FALSE" then some false
  else none

/-- The digits behind a sign. -/
def dropSign : List Char → List Char
  | '+' :: rest => rest
  | '-' :: rest => rest
  | cs => cs

/-- Whether digits are a text because a zero stands in front. -/
def isPadded (cs : List Char) : Bool :=
  match dropSign cs with
  | '0' :: d :: rest => (d :: rest).all Char.isDigit
  | _ => false

/-- The value of a digit in a base. -/
def digit? (base : Nat) (c : Char) : Option Nat :=
  (Quoted.hexDigit? c).filter (· < base)

/-- The value of digits in a base. -/
def digits? (base : Nat) (cs : List Char) : Option Nat :=
  if cs.isEmpty then none
  else cs.foldlM (fun n c => (digit? base c).map (n * base + ·)) 0

/-- The value of a natural number in the notation of any base. -/
def natural? : List Char → Option Nat
  | '0' :: 'x' :: rest => digits? 16 rest
  | '0' :: 'o' :: rest => digits? 8 rest
  | '0' :: 'b' :: rest => digits? 2 rest
  | cs => digits? 10 cs

/-- The value of a natural number with or without a plus sign. -/
def unsigned? (cs : List Char) : Option Nat :=
  if isPadded cs then none
  else match cs with
    | '+' :: rest => natural? rest
    | _ => natural? cs

/-- The value of an integer of at most 128 bits. -/
def integer? (cs : List Char) : Option Int :=
  match cs with
  | '-' :: rest =>
    if isPadded cs then none
    else ((natural? rest).filter (· ≤ Nat.pow 2 127)).map fun n => -(n : Int)
  | _ => ((unsigned? cs).filter (· < Nat.pow 2 128)).map fun n => (n : Int)

/-- An integer, marked as wide if it has more than 64 bits. -/
def Meaning.ofInteger (n : Int) : Meaning :=
  if -Int.ofNat (Nat.pow 2 63) ≤ n ∧ n < Nat.pow 2 64 then .integer n else .wide n

/-- The value of decimal digits, if there are any. -/
def decimal (cs : List Char) : Nat :=
  cs.foldl (fun n c => n * 10 + (c.toNat - 48)) 0

/-- The exponent behind the digits of a real number; without one it is zero. -/
def exponent? : List Char → Option Int
  | [] => some 0
  | e :: rest =>
    if e != 'e' && e != 'E' then none
    else
      let digits := dropSign rest
      if digits.isEmpty || !digits.all Char.isDigit then none
      else some (if rest.head? == some '-' then -(decimal digits : Int) else decimal digits)

/-- The real number nearest to `digits * 10 ^ exponent`, if it is finite. -/
def nearest? (digits : Nat) (exponent : Int) : Option Float :=
  let length := (Nat.toDigits 10 digits).length
  if digits = 0 || exponent + length < -400 then some 0.0
  else if 400 < exponent + length then none
  else
    let x := if exponent < 0 then Float.ofScientific digits true exponent.natAbs
      else Float.ofScientific digits false exponent.natAbs
    if x.isFinite then some x else none

/-- The value of a real number without a sign: digits, a point and an exponent, of which digits
must stand on one side of the point. -/
def magnitude? (cs : List Char) : Option Float :=
  let whole := cs.takeWhile Char.isDigit
  let rest := cs.dropWhile Char.isDigit
  let (fraction, rest) := match rest with
    | '.' :: rest => (rest.takeWhile Char.isDigit, rest.dropWhile Char.isDigit)
    | _ => ([], rest)
  if whole.isEmpty && fraction.isEmpty then none
  else do
    let e ← exponent? rest
    nearest? (decimal (whole ++ fraction)) (e - fraction.length)

/-- The names of what is infinite. -/
def isInfinity (s : String) : Bool :=
  s == ".inf" || s == ".Inf" || s == ".INF"

/-- The names of what is no number. -/
def isNotNumber (s : String) : Bool :=
  s == ".nan" || s == ".NaN" || s == ".NAN"

/-- The value of a real number. -/
def real? (s : String) : Option Float :=
  match s.toList with
  | '-' :: rest =>
    if isInfinity (String.ofList rest) then some (-1.0 / 0.0) else (magnitude? rest).map (-·)
  | '+' :: rest =>
    if isInfinity (String.ofList rest) then some (1.0 / 0.0) else magnitude? rest
  | cs =>
    if isInfinity s then some (1.0 / 0.0)
    else if isNotNumber s then some (0.0 / 0.0)
    else magnitude? cs

namespace Meaning

/-- The meaning of a plain scalar. -/
def ofPlain (s : String) : Meaning :=
  if s.isEmpty || isNull s then .null
  else match bool? s with
    | some b => .bool b
    | none =>
      match integer? s.toList with
      | some n => .ofInteger n
      | none =>
        if isPadded s.toList then .text s
        else match real? s with
          | some x => .real x
          | none => .text s

/-- A scalar that a tag of the core types has to fit. -/
def ofTagged (s wanted : String) : Option Meaning → Except Schema.Mismatch Meaning
  | some m => .ok m
  | none => .error (.value (.text s) wanted)

/-- What the tags of the core types begin with. -/
def corePrefix : String := "tag:yaml.org,2002:"

/-- The meaning of a scalar. -/
def ofScalar (tag : Option String) (style : Style) (s : String) :
    Except Schema.Mismatch Meaning :=
  match tag with
  | none => .ok (if style == .plain then ofPlain s else .text s)
  | some tag =>
    if tag == corePrefix ++ "bool" then ofTagged s "a boolean" ((bool? s).map .bool)
    else if tag == corePrefix ++ "int" then
      ofTagged s "an integer" ((integer? s.toList).map ofInteger)
    else if tag == corePrefix ++ "float" then ofTagged s "a float" ((real? s).map .real)
    else if tag == corePrefix ++ "null" then
      ofTagged s "null" (if isNull s then some .null else none)
    else .ok (.text s)

/-- What is found where something else is wanted. -/
def found : Meaning → Schema.Found
  | .null => .null
  | .bool b => .bool b
  | .integer n => .integer n
  | .wide n => .wideInteger n
  | .real x => .real x
  | .text s => .text s

end Meaning

/-- The name in a tag that names a choice: what stands behind the exclamation mark. -/
def choice? : Option String → Option String
  | none => none
  | some tag =>
    match tag.toList with
    | ['!'] => some "!"
    | '!' :: rest => some (String.ofList rest)
    | _ => none

end ScenarioSuite.Yaml
