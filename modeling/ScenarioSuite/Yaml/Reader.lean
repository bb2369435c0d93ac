import ScenarioSuite.Yaml.Scalar

/-!
# Reading a YAML document

A document is read from its root. Aliases are followed; how often is limited, and so is the depth
of nested collections. An error gets the place of the innermost value that is read when it comes
up.

## Main definitions

* `Place`: the way from the root to a value.
* `Reader`: a step over a document.
* `Reader.resolve`, `Reader.located`, `Reader.enter`.
-/

namespace ScenarioSuite.Yaml

/-- One step of the way to a value. -/
inductive Place.Step where
  | key (name : String)
  | index (n : Nat)
  /-- A key that is not written as a scalar. -/
  | unknown
deriving Repr, DecidableEq

/-- The way from the root to a value, the last step in front. -/
abbrev Place := List Place.Step

/-- A place in words: names parted by dots, indices in brackets. -/
def Place.text : Place → String
  | [] => "."
  | .key name :: rest => (if rest.isEmpty then "" else Place.text rest ++ ".") ++ name
  | .index n :: rest => Place.text rest ++ "[" ++ toString n ++ "]"
  | .unknown :: rest => (if rest.isEmpty then "" else Place.text rest ++ ".") ++ "?"

/-- Why a document is not what is wanted. -/
inductive Reader.Cause where
  | mismatch (m : Schema.Mismatch)
  | fault (f : Fault)

/-- A cause and, as soon as it is known, a place. -/
structure Reader.Error where
  cause : Reader.Cause
  place : Option Place

/-- A step over a document. The state counts the aliases that were followed. -/
abbrev Reader := ReaderT Document (StateT Nat (Except Reader.Error))

namespace Reader

variable {α : Type}

/-- Fails without a place. -/
def fail (m : Schema.Mismatch) : Reader α := throw ⟨.mismatch m, none⟩

/-- Fails because of the document itself. -/
def refuse (f : Fault) : Reader α := throw ⟨.fault f, none⟩

/-- The result of a check, or its mismatch without a place. -/
def ofCheck : Except Schema.Mismatch α → Reader α
  | .ok a => pure a
  | .error m => fail m

/-- Gives an error without a place this one. -/
def located (place : Place) (r : Reader α) : Reader α := fun document jumps =>
  match r document jumps with
  | .ok result => .ok result
  | .error e => .error { e with place := some (e.place.getD place) }

/-- How often aliases may be followed for each part of a document. -/
def jumpsPerPart : Nat := 100

/-- The node that a node stands for. -/
def resolve (node : Node) : Reader Node := do
  match node with
  | .alias number => do
    let jumps := (← getThe Nat) + 1
    set jumps
    let document ← readThe Document
    if document.size * jumpsPerPart < jumps then refuse .tooManyAliases
    else match document.anchors.lookup number with
      | some target => return target
      | none => refuse .unexpectedToken
  | other => return other

/-- How deep collections may be nested. -/
def depthLimit : Nat := 128

/-- Enters a collection, if it is not nested too deep. -/
def enter (inside : Nat → Reader α) : Nat → Reader α
  | 0 => refuse .tooDeep
  | depth + 1 => inside depth

/-- The result of a step over a whole document. -/
def run (r : Reader α) (document : Document) : Except Error α :=
  match r document 0 with
  | .ok (a, _) => .ok a
  | .error e => .error e

/-- The place of a value behind its key. -/
def placeBehind (key : Node) (place : Place) : Place :=
  match key with
  | .scalar _ _ name => .key name :: place
  | _ => .unknown :: place

/-- Whether nothing is written, which stands for an empty collection. -/
def isNothing : Node → Bool
  | .scalar _ style text => style == .plain && text.isEmpty
  | _ => false

/-- Why a node is not of the kind that is wanted. -/
def unwanted (node : Node) (wanted : String) : Schema.Mismatch :=
  match node with
  | .scalar tag style text =>
    match Meaning.ofScalar tag style text with
    | .ok m => .kind m.found wanted
    | .error m => m
  | .sequence _ _ => .kind .sequence wanted
  | .mapping _ _ => .kind .mapping wanted
  | .alias _ => .kind .null wanted

/-- The text of a scalar. -/
def text (wanted : String) (place : Place) (node : Node) : Reader String :=
  located place do
    match ← resolve node with
    | .scalar _ _ s => return s
    | other => fail (unwanted other wanted)

/-- Reads items in order. -/
def items (read : Place → Node → Reader α) (place : Place) : Nat → List Node → Reader (List α)
  | _, [] => return []
  | n, item :: rest => do
    return (← read (.index n :: place) item) :: (← items read place (n + 1) rest)

end Reader

end ScenarioSuite.Yaml
