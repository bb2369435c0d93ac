import ScenarioSuite.Yaml.Token

/-!
# Nodes of a YAML document

A document is a tree of nodes. A node may have an anchor, and an alias stands for the node of an
anchor. Anchors are numbered by the names known when they begin; of two with one number the later
counts, also for aliases in front of it.

## Main definitions

* `Node`: a scalar, a sequence, a mapping, or an alias.
* `Document`: the root, the anchored nodes, and the number of parts.
* `Document.ofText`: the only document of a text.
-/

namespace ScenarioSuite.Yaml

/-- A node of a document. -/
inductive Node where
  | scalar (tag : Option String) (style : Style) (text : String)
  | sequence (tag : Option String) (items : List Node)
  | mapping (tag : Option String) (pairs : List (Node × Node))
  | alias (number : Nat)

instance : Inhabited Node := ⟨.scalar none .plain ""⟩

/-- The node that stands where nothing is written. -/
def Node.empty (tag : Option String) : Node := .scalar tag .plain ""

/-- A document. -/
structure Document where
  root : Node
  /-- The anchored nodes under their numbers, the last to begin in front. -/
  anchors : List (Nat × Node)
  /-- The number of scalars and aliases and of beginnings and ends of collections. -/
  size : Nat

namespace Node

/-- What is left of the tokens, and what is known of anchors. -/
structure ParseState where
  tokens : List Token
  /-- The known names of anchors with their numbers. -/
  names : List (String × Nat)
  /-- How many anchors have begun. -/
  begun : Nat
  /-- The anchored nodes, each with its rank among the beginnings and its number. -/
  anchored : List (Nat × Nat × Node)
  /-- The number of parts so far. -/
  size : Nat

/-- A step over the tokens. -/
abbrev Parser := StateT ParseState (Except Fault)

namespace Parser

/-- The next token, not taken. -/
def peek : Parser (Option Token) := return (← get).tokens.head?

/-- Takes the next token. -/
def skip : Parser Unit := modify fun s => { s with tokens := s.tokens.drop 1 }

/-- Counts parts of the document. -/
def count (parts : Nat) : Parser Unit := modify fun s => { s with size := s.size + parts }

/-- Whether the next token is one of these. -/
def isAhead (ts : List Token) : Parser Bool := return (← peek).any fun t => ts.contains t

/-- Takes the next token, which must be this one. -/
def expect (t : Token) : Parser Unit := do
  if (← peek) == some t then skip else throw .unexpectedToken

/-- The number of the node that an alias stands for. -/
def aliasNumber (name : String) : Parser Nat := do
  match (← get).names.lookup name with
  | some number => return number
  | none => throw (.unknownAnchor name)

/-- Begins an anchored node: gives it a rank and a number. -/
def beginAnchor (name : String) : Parser (Nat × Nat) := do
  let s ← get
  let number := s.names.length
  set { s with
    names := (name, number) :: s.names.filter fun entry => entry.1 != name
    begun := s.begun + 1 }
  return (s.begun, number)

/-- Ends an anchored node. -/
def endAnchor (rank number : Nat) (node : Node) : Parser Unit :=
  modify fun s => { s with anchored := (rank, number, node) :: s.anchored }

/-- Takes an anchor, if there is one. -/
def anchor? : Parser (Option String) := do
  match ← peek with
  | some (.anchor name) => do skip; return some name
  | _ => return none

/-- Takes a tag, if there is one. -/
def tag? : Parser (Option Tag) := do
  match ← peek with
  | some (.tag t) => do skip; return some t
  | _ => return none

/-- An anchor and a tag in any order. -/
def properties : Parser (Option String × Option Tag) := do
  match ← anchor? with
  | some name => return (some name, ← tag?)
  | none =>
    match ← tag? with
    | some t => return (← anchor?, some t)
    | none => return (none, none)

/-- The meanings of handles. -/
abbrev Handles := List (String × String)

/-- A tag in full. -/
def resolveTag (handles : Handles) : Option Tag → Parser (Option String)
  | none => return none
  | some t =>
    if t.handle.isEmpty then return some t.suffix
    else match handles.lookup t.handle with
      | some meaning => return some (meaning ++ t.suffix)
      | none => throw .unknownTagHandle

/-- The tag of a scalar. The mark alone says nothing. -/
def scalarTag (tag : Option String) : Option String :=
  if tag == some "!" then none else tag

mutual

/-- A node. Block collections may begin where `block` holds, and a block sequence without deeper
indentation where `indentless` does. -/
def node (handles : Handles) (block indentless : Bool) : Nat → Parser Node
  | 0 => throw .unexpectedToken
  | fuel + 1 => do
    match ← peek with
    | some (.alias name) => do
      skip
      count 1
      return .alias (← aliasNumber name)
    | _ => do
      let (name, tag) ← properties
      let tag ← resolveTag handles tag
      match name with
      | none => content handles block indentless false tag fuel
      | some name => do
        let (rank, number) ← beginAnchor name
        let result ← content handles block indentless true tag fuel
        endAnchor rank number result
        return result

/-- A node behind its anchor and its tag. -/
def content (handles : Handles) (block indentless anchored : Bool) (tag : Option String) :
    Nat → Parser Node
  | 0 => throw .unexpectedToken
  | fuel + 1 => do
    match ← peek with
    | some (.scalar style text) => do
      skip
      count 1
      return .scalar (scalarTag tag) style text
    | some .flowSequenceStart => do
      skip
      count 2
      return .sequence tag (← flowItems handles true fuel)
    | some .flowMappingStart => do
      skip
      count 2
      return .mapping tag (← flowPairs handles true fuel)
    | ahead => do
      if indentless && ahead == some .blockEntry then do
        count 2
        return .sequence tag (← indentlessItems handles fuel)
      else if block && ahead == some .blockSequenceStart then do
        skip
        count 2
        return .sequence tag (← blockItems handles fuel)
      else if block && ahead == some .blockMappingStart then do
        skip
        count 2
        return .mapping tag (← blockPairs handles fuel)
      else if anchored || tag.isSome then do
        count 1
        return .empty tag
      else throw .unexpectedToken

/-- A node, unless one of these tokens or the end of the text is ahead. -/
def nodeUnless (handles : Handles) (block indentless : Bool) (ends : List Token) :
    Nat → Parser Node
  | 0 => throw .unexpectedToken
  | fuel + 1 => do
    if ← isAhead ends then do
      count 1
      return .empty none
    else node handles block indentless fuel

/-- The items of a block sequence. -/
def blockItems (handles : Handles) : Nat → Parser (List Node)
  | 0 => throw .unexpectedToken
  | fuel + 1 => do
    match ← peek with
    | some .blockEntry => do
      skip
      let item ← nodeUnless handles true false [.blockEntry, .blockEnd] fuel
      return item :: (← blockItems handles fuel)
    | some .blockEnd => do
      skip
      return []
    | _ => throw .unexpectedToken

/-- The items of a block sequence without deeper indentation. -/
def indentlessItems (handles : Handles) : Nat → Parser (List Node)
  | 0 => throw .unexpectedToken
  | fuel + 1 => do
    match ← peek with
    | some .blockEntry => do
      skip
      let item ← nodeUnless handles true false [.blockEntry, .key, .value, .blockEnd] fuel
      return item :: (← indentlessItems handles fuel)
    | _ => return []

/-- The pairs of a block mapping. -/
def blockPairs (handles : Handles) : Nat → Parser (List (Node × Node))
  | 0 => throw .unexpectedToken
  | fuel + 1 => do
    match ← peek with
    | some .key => do
      skip
      let key ← nodeUnless handles true true [.key, .value, .blockEnd] fuel
      let value ← blockValue handles fuel
      return (key, value) :: (← blockPairs handles fuel)
    | some .blockEnd => do
      skip
      return []
    | _ => throw .unexpectedToken

/-- The value of a pair of a block mapping. -/
def blockValue (handles : Handles) : Nat → Parser Node
  | 0 => throw .unexpectedToken
  | fuel + 1 => do
    if ← isAhead [.value] then do
      skip
      nodeUnless handles true true [.key, .value, .blockEnd] fuel
    else do
      count 1
      return .empty none

/-- The items of a flow sequence. A pair among them is a mapping of its own. -/
def flowItems (handles : Handles) (first : Bool) : Nat → Parser (List Node)
  | 0 => throw .unexpectedToken
  | fuel + 1 => do
    if ← isAhead [.flowSequenceEnd] then do
      skip
      return []
    else do
      unless first do expect .flowEntry
      match ← peek with
      | some .key => do
        skip
        count 2
        let pair ← flowPair handles fuel
        return .mapping none [pair] :: (← flowItems handles false fuel)
      | some .flowSequenceEnd => do
        skip
        return []
      | _ => do
        let item ← node handles false false fuel
        return item :: (← flowItems handles false fuel)

/-- A pair in a flow sequence, behind the mark of its key. A key that is not written takes the
next token with it. -/
def flowPair (handles : Handles) : Nat → Parser (Node × Node)
  | 0 => throw .unexpectedToken
  | fuel + 1 => do
    let key ←
      if ← isAhead [.value, .flowEntry, .flowSequenceEnd] then do
        skip
        count 1
        pure (Node.empty none)
      else node handles false false fuel
    let value ← flowValue handles [.flowEntry, .flowSequenceEnd] fuel
    return (key, value)

/-- The value of a pair in a flow collection. -/
def flowValue (handles : Handles) (ends : List Token) : Nat → Parser Node
  | 0 => throw .unexpectedToken
  | fuel + 1 => do
    if ← isAhead [.value] then do
      skip
      nodeUnless handles false false ends fuel
    else do
      count 1
      return .empty none

/-- The pairs of a flow mapping. A key without its mark has no value. -/
def flowPairs (handles : Handles) (first : Bool) : Nat → Parser (List (Node × Node))
  | 0 => throw .unexpectedToken
  | fuel + 1 => do
    if ← isAhead [.flowMappingEnd] then do
      skip
      return []
    else do
      unless first do expect .flowEntry
      match ← peek with
      | some .key => do
        skip
        let key ← nodeUnless handles false false [.value, .flowEntry, .flowMappingEnd] fuel
        let value ← flowValue handles [.flowEntry, .flowMappingEnd] fuel
        return (key, value) :: (← flowPairs handles false fuel)
      | some .flowMappingEnd => do
        skip
        return []
      | _ => do
        let key ← node handles false false fuel
        count 1
        return (key, .empty none) :: (← flowPairs handles false fuel)

end

/-- The handles that need no directive. -/
def standardHandles : Handles :=
  [("!", "!"), ("!!", "tag:yaml.org,2002:")]

/-- Takes the directives in front of a document: at most one version, and no handle twice. -/
def directives : Nat → Bool → Handles → Parser Handles
  | 0, _, handles => return handles
  | fuel + 1, versioned, handles => do
    match ← peek with
    | some (.directive (.version major minor)) => do
      if versioned || major != 1 || (minor != 1 && minor != 2) then throw .badDirective
      skip
      directives fuel true handles
    | some (.directive (.tag handle meaning)) => do
      if (handles.lookup handle).isSome then throw .badDirective
      skip
      directives fuel versioned ((handle, meaning) :: handles)
    | _ => return handles

/-- Takes the markers that end a document. -/
def documentEnds : Nat → Parser Unit
  | 0 => return ()
  | fuel + 1 => do
    if ← isAhead [.documentEnd] then do
      skip
      documentEnds fuel

/-- The root of the only document. -/
def root (fuel : Nat) : Parser Node := do
  match ← peek with
  | none => do
    count 1
    return .empty none
  | some ahead => do
    let explicit := match ahead with
      | .directive _ | .documentStart => true
      | _ => false
    let handles ← directives fuel false []
    let handles := handles ++ standardHandles
    if explicit then expect .documentStart
    let isOver := match ← peek with
      | none | some (.directive _) | some .documentStart | some .documentEnd => true
      | _ => false
    let result ←
      if explicit && isOver then do
        count 1
        pure (Node.empty none)
      else node handles true false fuel
    documentEnds fuel
    if (← peek).isSome then throw .severalDocuments
    return result

end Parser

/-- Puts an anchored node where its rank belongs, higher ranks in front. -/
def insertRanked (entry : Nat × Nat × Node) : List (Nat × Nat × Node) → List (Nat × Nat × Node)
  | [] => [entry]
  | other :: rest =>
    if other.1 < entry.1 then entry :: other :: rest else other :: insertRanked entry rest

end Node

namespace Document

/-- The only document of tokens. -/
def ofTokens (tokens : List Token) : Except Fault Document := do
  let fuel := 8 * tokens.length + 8
  let (root, s) ← (Node.Parser.root fuel).run ⟨tokens, [], 0, [], 0⟩
  let ranked := s.anchored.foldr Node.insertRanked []
  return ⟨root, ranked.map (·.2), s.size⟩

/-- The only document of a text. -/
def ofText (text : String) : Except Fault Document := do
  ofTokens (← Token.ofText text)

end Document

end ScenarioSuite.Yaml
