import ScenarioSuite.Address.Host

/-!
# Addresses

An address begins with a scheme. Behind the schemes of the web a host has to follow, with as many
slashes of either kind as one likes in front of it; behind other schemes there is a host only
behind two slashes. What follows the host can be anything.

## Main definitions

* `Address`: the scheme, and the host and the port if there are any.
* `Address.parse`.
-/

namespace ScenarioSuite

/-- An address. -/
structure Address where
  scheme : String
  host : Option Address.Host
  port : Option Nat
deriving Repr, DecidableEq

namespace Address

/-- What a scheme says about the host. -/
inductive Kind where
  /-- There has to be one. -/
  | web
  /-- There may be one, and none is the usual case. -/
  | file
  /-- There may be one, in any form. -/
  | other
deriving Repr, DecidableEq

/-- The kind of a scheme. -/
def Kind.ofScheme (scheme : String) : Kind :=
  if ["http", "https", "ws", "wss", "ftp"].contains scheme then .web
  else if scheme = "file" then .file
  else .other

/-- Whether a character ends the host and what belongs to it. -/
def Kind.ends (kind : Kind) (c : Char) : Bool :=
  c == '/' || c == '?' || c == '#' || (c == '\\' && kind != .other)

/-- Whether a character counts for nothing at either end of an address. -/
def isMargin (c : Char) : Bool :=
  c.toNat ≤ 32

/-- Whether a character counts for nothing wherever it stands. -/
def isBreak (c : Char) : Bool :=
  c == '\t' || c == '\n' || c == '\r'

/-- The characters that count. -/
def significant (cs : List Char) : List Char :=
  (((cs.dropWhile isMargin).reverse.dropWhile isMargin).reverse).filter (!isBreak ·)

/-- Whether a character may be in a scheme. -/
def isSchemeChar (c : Char) : Bool :=
  c.isAlphanum || c == '+' || c == '-' || c == '.'

/-- The scheme in lower case, and what follows its colon. -/
def scheme? (cs : List Char) : Option (String × List Char) :=
  match cs.takeWhile isSchemeChar, cs.dropWhile isSchemeChar with
  | c :: name, ':' :: rest =>
    if c.isAlpha then some (String.ofList ((c :: name).map Char.toLower), rest) else none
  | _, _ => none

/-- The user behind whom the last at sign stands, if there is one, and the rest. -/
def splitUser (cs : List Char) : Option (List Char) × List Char :=
  let rest := (cs.reverse.takeWhile (· != '@')).reverse
  if rest.length = cs.length then (none, cs)
  else (some (cs.take (cs.length - rest.length - 1)), rest)

/-- The host and what follows its colon; colons in brackets belong to the host. -/
def splitPort (bracketed : Bool) : List Char → List Char × Option (List Char)
  | [] => ([], none)
  | c :: rest =>
    if c = ':' ∧ !bracketed then ([], some rest)
    else
      let (host, port) := splitPort (c == '[' || (bracketed && c != ']')) rest
      (c :: host, port)

/-- The number of a port, if one is given. -/
def portOf (cs : List Char) : Except Fault (Option Nat) :=
  if cs.isEmpty then .ok none
  else match number? 10 cs with
    | some n => if n < Nat.pow 2 16 then .ok (some n) else .error .badPort
    | none => .error .badPort

/-- Whether anything is said of a user. -/
def namesUser (user : Option (List Char)) : Bool :=
  match user with
  | none => false
  | some text => !text.isEmpty && text != [':']

/-- The host and the port between the slashes in front and the character that ends them. -/
def authority (kind : Kind) (cs : List Char) : Except Fault (Host × Option Nat) := do
  let (user, rest) := splitUser (cs.takeWhile (!kind.ends ·))
  if user = some [] ∧ rest.isEmpty ∧ cs.any kind.ends then throw .emptyHost
  let (name, port) := splitPort false rest
  if name.isEmpty ∧ (kind = .web ∨ port.isSome) then throw .emptyHost
  let host ← if kind = .web then Host.parse name else Host.parseOther name
  let port ← portOf ((port.getD []).takeWhile (· != '\\'))
  if name.isEmpty ∧ namesUser user then throw .emptyHost
  return (host, port)

/-- Whether a text is a letter for a drive. -/
def isDrive : List Char → Bool
  | [c, d] => c.isAlpha && (d == ':' || d == '|')
  | _ => false

/-- The host of a file, if one is named. -/
def fileHost (cs : List Char) : Except Fault (Option Host) :=
  let name := cs.takeWhile (!Kind.file.ends ·)
  if name.isEmpty ∨ isDrive name then .ok none else some <$> Host.parse name

/-- Whether a character is a slash of either kind. -/
def isSlash (c : Char) : Bool :=
  c == '/' || c == '\\'

/-- The address that a text writes. -/
def parse (text : String) : Except Fault Address :=
  match scheme? (significant text.toList) with
  | none => .error .relative
  | some (scheme, rest) =>
    match Kind.ofScheme scheme, rest with
    | .web, rest => do
      let (host, port) ← authority .web (rest.dropWhile isSlash)
      return ⟨scheme, some host, port⟩
    | .file, c :: d :: rest => do
      if isSlash c && isSlash d then return ⟨scheme, ← fileHost rest, none⟩
      else return ⟨scheme, none, none⟩
    | .other, '/' :: '/' :: rest => do
      let (host, port) ← authority .other rest
      return ⟨scheme, some host, port⟩
    | _, _ => .ok ⟨scheme, none, none⟩

end Address

end ScenarioSuite
