import ScenarioSuite.Address.Domain.Label
import ScenarioSuite.Text.Utf8

/-!
# Hosts

A host is a domain name or a number. A name whose last label looks like a number has to be a number
as a whole; numbers in brackets are of the longer kind.

## Main definitions

* `Host`: a domain name, a number of either kind, or any text for a scheme that the web does not
  know.
* `Fault`: what is wrong with an address.
* `Host.parse`, `Host.parseOther`.
-/

namespace ScenarioSuite.Address

/-- What is wrong with an address. -/
inductive Fault where
  | emptyHost
  | badDomainName
  | badPort
  | badIpv4
  | badIpv6
  | badHostCharacter
  /-- There is no scheme. -/
  | relative
deriving Repr, DecidableEq

/-- The fault in words. -/
def Fault.message : Fault → String
  | .emptyHost => "empty host"
  | .badDomainName => "invalid international domain name"
  | .badPort => "invalid port number"
  | .badIpv4 => "invalid IPv4 address"
  | .badIpv6 => "invalid IPv6 address"
  | .badHostCharacter => "invalid domain character"
  | .relative => "relative URL without a base"

/-- A host. -/
inductive Host where
  | domain (labels : List Domain.Label)
  | ipv4 (number : Nat)
  | ipv6 (pieces : List Nat)
  | other (text : List Char)
deriving Repr, DecidableEq

/-- The value of a digit of a base up to 16. -/
def digit? (base : Nat) (c : Char) : Option Nat :=
  let value? :=
    if '0' ≤ c ∧ c ≤ '9' then some (c.toNat - 48)
    else if 'a' ≤ c ∧ c ≤ 'f' then some (c.toNat - 87)
    else if 'A' ≤ c ∧ c ≤ 'F' then some (c.toNat - 55)
    else none
  value?.filter (· < base)

/-- The number that digits write. -/
def number? (base : Nat) (cs : List Char) : Option Nat :=
  cs.foldlM (fun n c => (digit? base c).map (n * base + ·)) 0

/-- Splits a text at a character, with what came since the last one in front. -/
def splitAt (c : Char) (run : List Char) : List Char → List (List Char)
  | [] => [run]
  | d :: rest => if d = c then run :: splitAt c [] rest else splitAt c (run ++ [d]) rest

namespace Host

/-! ### Numbers between dots -/

/-- The number of a label; a zero in front makes it octal, and with an x hexadecimal. A base without
digits stands for zero. -/
def labelNumber? : List Char → Option Nat
  | [] => none
  | '0' :: 'x' :: digits => number? 16 digits
  | '0' :: 'X' :: digits => number? 16 digits
  | '0' :: c :: digits => number? 8 (c :: digits)
  | digits => number? 10 digits

/-- The labels without an empty one at the end. -/
def withoutRoot (labels : List Domain.Label) : List Domain.Label :=
  if labels.getLast? = some (.plain []) then labels.dropLast else labels

/-- Whether the last label, an empty one aside, looks like a number. -/
def endsInNumber (labels : List Domain.Label) : Bool :=
  match (withoutRoot labels).getLast? with
  | some (.plain text) => (!text.isEmpty && text.all Char.isDigit) || (labelNumber? text).isSome
  | _ => false

/-- The number of labels: each but the last stands for one byte, and the last for the bytes that are
left of four. -/
def ipv4Of? (labels : List Domain.Label) : Option Nat := do
  let labels := withoutRoot labels
  if 4 < labels.length then none
  let numbers ← labels.mapM fun l => match l with
    | .plain text => labelNumber? text
    | .foreign _ => none
  let bytes := numbers.dropLast
  let last ← numbers.getLast?
  if bytes.any (255 < ·) || Nat.pow 256 (4 - bytes.length) ≤ last then none
  return (List.range bytes.length).zip bytes |>.foldl (fun n (i, b) => n + b * Nat.pow 256 (3 - i)) last

/-! ### Numbers in brackets -/

/-- One of the four bytes at the end, in decimal digits without a zero in front. -/
def tailByte? (cs : List Char) : Option Nat :=
  if cs.isEmpty || (1 < cs.length && cs.head? == some '0') then none
  else (number? 10 cs).filter (· ≤ 255)

/-- The last two pieces, written as four bytes between dots. -/
def tailPieces? (cs : List Char) : Option (List Nat) := do
  match ← (splitAt '.' [] cs).mapM tailByte? with
  | [a, b, c, d] => return [a * 256 + b, c * 256 + d]
  | _ => none

/-- A piece of one to four hexadecimal digits. -/
def piece? (cs : List Char) : Option Nat :=
  if cs.isEmpty || 4 < cs.length then none else number? 16 cs

/-- Pieces between colons; the last may stand for two pieces, written as four bytes. -/
def piecesOf? : List (List Char) → Option (List Nat)
  | [] => some []
  | [last] => if last.contains '.' then tailPieces? last else (piece? last).map ([·])
  | first :: rest => do return (← piece? first) :: (← piecesOf? rest)

/-- The pieces of a text without a gap. -/
def pieces? (cs : List Char) : Option (List Nat) :=
  if cs.isEmpty then some [] else piecesOf? (splitAt ':' [] cs)

/-- Splits a text at its first two colons in a row. -/
def splitGap? (front : List Char) : List Char → Option (List Char × List Char)
  | [] => none
  | ':' :: ':' :: rest => some (front, rest)
  | c :: rest => splitGap? (front ++ [c]) rest

/-- The eight pieces of a number in brackets. Two colons in a row stand for pieces of zero. -/
def ipv6Of? (cs : List Char) : Option (List Nat) := do
  match splitGap? [] cs with
  | none => (← pieces? cs) |> fun pieces => if pieces.length = 8 then some pieces else none
  | some (front, behind) =>
    if front.contains '.' then none
    let front ← pieces? front
    let behind ← pieces? behind
    let given := front.length + behind.length
    if given < 8 then return front ++ List.replicate (8 - given) 0 ++ behind else none

/-- The host in brackets that begins with the first of them. -/
def parseBracketed (cs : List Char) : Except Fault Host :=
  if cs.getLast? ≠ some ']' then .error .badIpv6
  else match ipv6Of? cs.tail.dropLast with
    | some pieces => .ok (.ipv6 pieces)
    | none => .error .badIpv6

/-! ### Names -/

/-- The bytes of a text in which bytes may be written as two hexadecimal digits behind a percent
sign. -/
def percentDecoded : List Char → List UInt8
  | [] => []
  | '%' :: h :: l :: rest =>
    match digit? 16 h, digit? 16 l with
    | some h, some l => UInt8.ofNat (h * 16 + l) :: percentDecoded rest
    | _, _ => 37 :: percentDecoded (h :: l :: rest)
  | c :: rest => Text.Utf8.encode (String.singleton c) ++ percentDecoded rest

/-- A host by its name. -/
def parseName (cs : List Char) : Except Fault Host :=
  match Text.Utf8.decode (percentDecoded cs) with
  | .error _ => .error .badDomainName
  | .ok name =>
    match Domain.labels? name.toList with
    | none => .error .badDomainName
    | some labels =>
      if labels = [.plain []] then .error .emptyHost
      else if endsInNumber labels then
        match ipv4Of? labels with
        | some number => .ok (.ipv4 number)
        | none => .error .badIpv4
      else .ok (.domain labels)

/-- The host of an address of the web. -/
def parse (cs : List Char) : Except Fault Host :=
  if cs.head? = some '[' then parseBracketed cs else parseName cs

/-- The characters that no host has. -/
def refused : List Char :=
  [Char.ofNat 0, '\t', '\n', '\r', ' ', '#', '/', ':', '<', '>', '?', '@', '[', '\\', ']', '^', '|']

/-- The host of an address of any other kind. -/
def parseOther (cs : List Char) : Except Fault Host :=
  if cs.head? = some '[' then parseBracketed cs
  else if cs.any refused.contains then .error .badHostCharacter
  else .ok (.other cs)

end Host

end ScenarioSuite.Address
