import ScenarioSuite.Proofs.SourceTokens
import ScenarioSuite.Yaml.Node

/-!
# Sources as nodes of YAML

The parser takes the tokens of a source off the front of what is left, whatever comes behind them.
It looks one token ahead, and the fuel it needs is bounded by the tokens.

## Main definitions

* `Json.Source.node`: the node of a source.
* `Yaml.Node.Parser.Takes`: what a parser gives and leaves.

## Main statements

* `Yaml.Node.Parser.parses`: the tokens of a source are taken for its node.
* `Json.File.exists_ofText`: the text of a file is a document without anchors.
-/

namespace ScenarioSuite.Json

open Yaml (Node)

mutual

/-- The node that YAML reads in a source. -/
def Source.node : Source → Node
  | .null => .scalar none .plain "null"
  | .bool b => .scalar none .plain (String.ofList (Source.bool b).chars)
  | .number l => .scalar none .plain (String.ofList l.chars)
  | .string pieces => .scalar none .double (spelled pieces)
  | .array _ items => .sequence none items.nodes
  | .object _ members => .mapping none members.pairs

/-- The nodes of items. -/
def Items.nodes : Items → List Node
  | .nil => []
  | .cons _ item _ rest => item.node :: rest.nodes

/-- The pairs of nodes of members. -/
def Members.pairs : Members → List (Node × Node)
  | .nil => []
  | .cons _ name _ _ value _ rest =>
    (.scalar none .double (spelled name), value.node) :: rest.pairs

end

end ScenarioSuite.Json

namespace ScenarioSuite.Yaml.Node.Parser

variable {α β : Type} {input mid rest : List Token} {a : α} {b : β}

/-- From the tokens `input` the parser gives `a` and leaves `rest`. It learns of no anchors. -/
def Takes (p : Parser α) (input : List Token) (a : α) (rest : List Token) : Prop :=
  ∀ s : ParseState, s.tokens = input →
    ∃ size, p s = .ok (a, { s with tokens := rest, size })

namespace Takes

protected theorem pure (a : α) (input : List Token) : Takes (pure a) input a input := by
  rintro s rfl
  exact ⟨s.size, rfl⟩

protected theorem bind {p : Parser α} {f : α → Parser β} (hp : Takes p input a mid)
    (hf : Takes (f a) mid b rest) : Takes (p >>= f) input b rest := by
  rintro s hs
  obtain ⟨size, hsize⟩ := hp s hs
  obtain ⟨size', hsize'⟩ := hf { s with tokens := mid, size } rfl
  refine ⟨size', ?_⟩
  change (p s >>= fun r => f r.1 r.2) = _
  rw [hsize]
  exact hsize'

theorem peek (input : List Token) : Takes peek input input.head? input := by
  rintro s rfl
  exact ⟨s.size, rfl⟩

theorem skip (t : Token) (rest : List Token) : Takes skip (t :: rest) () rest := by
  rintro s hs
  refine ⟨s.size, ?_⟩
  change Except.ok ((), { s with tokens := s.tokens.drop 1 }) = _
  rw [hs]
  rfl

theorem count (n : Nat) (input : List Token) : Takes (count n) input () input := by
  rintro s rfl
  exact ⟨s.size + n, rfl⟩

theorem isAhead (ts input : List Token) :
    Takes (isAhead ts) input (input.head?.any fun t => ts.contains t) input :=
  (peek input).bind (.pure _ input)

theorem expect (t : Token) (rest : List Token) : Takes (expect t) (t :: rest) () rest := by
  refine (peek _).bind ?_
  rw [List.head?_cons, if_pos (beq_self_eq_true _)]
  exact skip t rest

end Takes

/-- Whether the token is a scalar or opens a collection of flow style. -/
def beginsContent : Token → Bool
  | .scalar .. | .flowSequenceStart | .flowMappingStart => true
  | _ => false

variable {handles : Handles} {block indentless : Bool} {fuel : Nat}

/-- In front of content there is neither an anchor nor a tag. -/
theorem takes_node {t : Token} (h : beginsContent t) {n : Node}
    (content : Takes (content handles block indentless false none fuel) (t :: input) n rest) :
    Takes (node handles block indentless (fuel + 1)) (t :: input) n rest := by
  have anchor : Takes anchor? (t :: input) none (t :: input) := by
    cases t with
    | scalar | flowSequenceStart | flowMappingStart => exact (Takes.peek _).bind (.pure none _)
    | _ => cases h
  have tag : Takes tag? (t :: input) none (t :: input) := by
    cases t with
    | scalar | flowSequenceStart | flowMappingStart => exact (Takes.peek _).bind (.pure none _)
    | _ => cases h
  have properties : Takes properties (t :: input) (none, none) (t :: input) :=
    anchor.bind (tag.bind (.pure _ _))
  rw [node]
  refine (Takes.peek _).bind ?_
  cases t with
  | scalar | flowSequenceStart | flowMappingStart =>
    exact properties.bind ((Takes.pure none _).bind content)
  | _ => cases h

theorem takes_scalar (style : Style) (s : String) (rest : List Token) :
    Takes (content handles block indentless false none (fuel + 1)) (.scalar style s :: rest)
      (.scalar none style s) rest := by
  rw [content]
  exact (Takes.peek _).bind ((Takes.skip _ _).bind ((Takes.count 1 _).bind (.pure _ _)))

open Json (Items Members Source spelled)

/-- With fuel for its tokens, the parser takes a source for its node. -/
def Parses (src : Source) : Prop :=
  ∀ (handles : Handles) (block indentless : Bool) (fuel : Nat) (rest : List Token),
    2 * src.tokens.length ≤ fuel →
      Takes (node handles block indentless fuel) (src.tokens ++ rest) src.node rest

theorem exists_tokens (src : Source) : ∃ t ts, src.tokens = t :: ts ∧ beginsContent t := by
  cases src <;> exact ⟨_, _, rfl, rfl⟩

theorem takes_flowItems {items : Items} (h : ∀ src ∈ items.sources, Parses src) (first : Bool)
    (enough : 2 * (items.tokens first).length + 1 ≤ fuel) :
    Takes (flowItems handles first fuel) (items.tokens first ++ .flowSequenceEnd :: rest)
      items.nodes rest := by
  induction items using Items.induction generalizing first fuel with
  | nil =>
    obtain _ | fuel := fuel
    · exact absurd enough (Nat.not_succ_le_zero _)
    rw [flowItems]
    exact (Takes.isAhead _ _).bind ((Takes.skip _ _).bind (.pure [] rest))
  | cons before src after others ih =>
    obtain _ | fuel := fuel
    · exact absurd enough (Nat.not_succ_le_zero _)
    obtain ⟨hsrc, hothers⟩ := List.forall_mem_cons.1 h
    obtain ⟨t, ts, ht, content⟩ := exists_tokens src
    have some : 0 < src.tokens.length := by simp [ht]
    simp only [Items.tokens, List.length_append] at enough
    have item := hsrc handles false false fuel
      (others.tokens false ++ .flowSequenceEnd :: rest) (by omega)
    have later := ih hothers false (show 2 * (others.tokens false).length + 1 ≤ fuel by omega)
    have taken : Takes (do
        let item ← node handles false false fuel
        return item :: (← flowItems handles false fuel))
        (src.tokens ++ (others.tokens false ++ .flowSequenceEnd :: rest))
        (src.node :: others.nodes) rest :=
      item.bind (later.bind (.pure _ rest))
    rw [ht, List.cons_append] at taken
    rw [flowItems, Items.tokens, List.append_assoc, List.append_assoc, ht, List.cons_append]
    cases first with
    | true =>
      cases t with
      | scalar | flowSequenceStart | flowMappingStart =>
        exact (Takes.isAhead _ _).bind ((Takes.peek _).bind taken)
      | _ => cases content
    | false =>
      cases t with
      | scalar | flowSequenceStart | flowMappingStart =>
        exact (Takes.isAhead _ _).bind ((Takes.expect .flowEntry _).bind
          ((Takes.peek _).bind taken))
      | _ => cases content

theorem takes_flowPairs {members : Members} (h : ∀ m ∈ members.entries, Parses m.2) (first : Bool)
    (enough : 2 * (members.tokens first).length + 1 ≤ fuel) :
    Takes (flowPairs handles first fuel) (members.tokens first ++ .flowMappingEnd :: rest)
      members.pairs rest := by
  induction members using Members.induction generalizing first fuel with
  | nil =>
    obtain _ | fuel := fuel
    · exact absurd enough (Nat.not_succ_le_zero _)
    rw [flowPairs]
    exact (Takes.isAhead _ _).bind ((Takes.skip _ _).bind (.pure [] rest))
  | cons before name mid behind value after others ih =>
    obtain _ | fuel := fuel
    · exact absurd enough (Nat.not_succ_le_zero _)
    obtain ⟨hvalue, hothers⟩ := List.forall_mem_cons.1 h
    have hvalue : Parses value := hvalue
    obtain ⟨t, ts, ht, content⟩ := exists_tokens value
    have some : 0 < value.tokens.length := by simp [ht]
    simp only [Members.tokens, List.length_append, List.length_cons, List.length_nil] at enough
    obtain ⟨fuel, rfl⟩ : ∃ n, fuel = n + 4 := Nat.exists_eq_add_of_le' (by omega)
    have item := hvalue handles false false (fuel + 2)
      (others.tokens false ++ .flowMappingEnd :: rest) (by omega)
    have later := ih hothers false
      (show 2 * (others.tokens false).length + 1 ≤ fuel + 4 by omega)
    have key : Takes
        (nodeUnless handles false false [.value, .flowEntry, .flowMappingEnd] (fuel + 4))
        (.scalar .double (spelled name) :: .value :: (value.tokens ++ (others.tokens false ++
          .flowMappingEnd :: rest)))
        (.scalar none .double (spelled name)) (.value :: (value.tokens ++ (others.tokens false ++
          .flowMappingEnd :: rest))) := by
      rw [nodeUnless]
      exact (Takes.isAhead _ _).bind (takes_node rfl (takes_scalar .double _ _))
    have found : Takes (flowValue handles [.flowEntry, .flowMappingEnd] (fuel + 4))
        (.value :: (value.tokens ++ (others.tokens false ++ .flowMappingEnd :: rest))) value.node
        (others.tokens false ++ .flowMappingEnd :: rest) := by
      rw [flowValue]
      refine (Takes.isAhead _ _).bind ((Takes.skip _ _).bind ?_)
      rw [nodeUnless]
      refine (Takes.isAhead _ _).bind ?_
      rw [ht, List.cons_append] at item ⊢
      cases t with
      | scalar | flowSequenceStart | flowMappingStart => exact item
      | _ => cases content
    rw [flowPairs, Members.tokens, List.append_assoc, List.append_assoc, List.append_assoc]
    cases first with
    | true =>
      exact (Takes.isAhead _ _).bind ((Takes.peek _).bind ((Takes.skip _ _).bind
        (key.bind (found.bind (later.bind (.pure _ rest))))))
    | false =>
      exact (Takes.isAhead _ _).bind ((Takes.expect .flowEntry _).bind ((Takes.peek _).bind
        ((Takes.skip _ _).bind (key.bind (found.bind (later.bind (.pure _ rest)))))))

theorem parses (src : Source) : Parses src := by
  -- A node and its content take one step each.
  induction src using Source.induction with
  | null | bool | number | string =>
    intro handles block indentless fuel rest enough
    obtain ⟨fuel, rfl⟩ : ∃ k, fuel = k + 2 := Nat.exists_eq_add_of_le' enough
    exact takes_node rfl (takes_scalar _ _ rest)
  | array inside items ih =>
    intro handles block indentless fuel rest enough
    simp only [Source.tokens, List.length_cons, List.length_append, List.length_nil] at enough
    obtain ⟨fuel, rfl⟩ : ∃ k, fuel = k + 2 := Nat.exists_eq_add_of_le' (by omega)
    have inside : Takes (flowItems handles true fuel)
        (items.tokens true ++ .flowSequenceEnd :: rest) items.nodes rest :=
      takes_flowItems ih true (by omega)
    rw [Source.tokens, List.cons_append, List.append_assoc]
    refine takes_node rfl ?_
    rw [content]
    exact (Takes.peek _).bind ((Takes.skip _ _).bind ((Takes.count 2 _).bind
      (inside.bind (.pure _ rest))))
  | object inside members ih =>
    intro handles block indentless fuel rest enough
    simp only [Source.tokens, List.length_cons, List.length_append, List.length_nil] at enough
    obtain ⟨fuel, rfl⟩ : ∃ k, fuel = k + 2 := Nat.exists_eq_add_of_le' (by omega)
    have inside : Takes (flowPairs handles true fuel)
        (members.tokens true ++ .flowMappingEnd :: rest) members.pairs rest :=
      takes_flowPairs ih true (by omega)
    rw [Source.tokens, List.cons_append, List.append_assoc]
    refine takes_node rfl ?_
    rw [content]
    exact (Takes.peek _).bind ((Takes.skip _ _).bind ((Takes.count 2 _).bind
      (inside.bind (.pure _ rest))))

/-- A source alone is the root of a document. -/
theorem takes_root (src : Source) (enough : 2 * src.tokens.length ≤ fuel) :
    Takes (root fuel) src.tokens src.node [] := by
  obtain ⟨t, ts, ht, begins⟩ := exists_tokens src
  have whole := parses src standardHandles true false fuel [] enough
  rw [List.append_nil] at whole
  rw [ht] at whole ⊢
  have directives : Takes (directives fuel false []) (t :: ts) [] (t :: ts) := by
    cases fuel with
    | zero => exact .pure [] _
    | succ fuel =>
      cases t with
      | scalar | flowSequenceStart | flowMappingStart => exact (Takes.peek _).bind (.pure [] _)
      | _ => cases begins
  have ends : Takes (documentEnds fuel) [] () [] := by
    cases fuel with
    | zero => exact .pure () _
    | succ fuel => exact (Takes.isAhead _ _).bind (.pure () _)
  refine (Takes.peek _).bind ?_
  cases t with
  | scalar | flowSequenceStart | flowMappingStart =>
    exact directives.bind ((Takes.peek _).bind (whole.bind (ends.bind ((Takes.peek _).bind
      (.pure _ _)))))
  | _ => cases begins

end ScenarioSuite.Yaml.Node.Parser

namespace ScenarioSuite.Json

open Yaml (Document)

/-- The tokens of a source are a document without anchors. -/
theorem Source.exists_ofTokens (src : Source) :
    ∃ size, Document.ofTokens src.tokens = .ok ⟨src.node, [], size⟩ := by
  have enough : 2 * src.tokens.length ≤ 8 * src.tokens.length + 8 := by omega
  obtain ⟨size, h⟩ := Yaml.Node.Parser.takes_root src enough ⟨src.tokens, [], 0, [], 0⟩ rfl
  refine ⟨size, ?_⟩
  rw [Document.ofTokens]
  change (Yaml.Node.Parser.root _ _ >>= _) = _
  rw [h]
  rfl

/-- The text of a file is a document without anchors. -/
theorem File.exists_ofText {f : File} (portable : f.isPortable) :
    ∃ size, Document.ofText f.text = .ok ⟨f.root.node, [], size⟩ := by
  obtain ⟨size, h⟩ := f.root.exists_ofTokens
  exact ⟨size, by rw [Document.ofText, f.ofText_text portable, ok_bind, h]⟩

end ScenarioSuite.Json
