import ScenarioSuite.Proofs.FlowLexing

/-!
# Sources as tokens of YAML

A container of JSON is a collection of flow style, and everything in it stands in flow style. So
only the blanks around the outermost container can matter.

## Main definitions

* `Json.Source.tokens`: the tokens of a source.

## Main statements

* `Json.File.ofText_text`: the tokens of a whole text.
-/

namespace ScenarioSuite.Json

open Yaml (Token)

mutual

/-- The tokens that YAML reads in a source. -/
def Source.tokens : Source → List Token
  | .null => [.scalar .plain "null"]
  | .bool b => [.scalar .plain (String.ofList (Source.bool b).chars)]
  | .number l => [.scalar .plain (String.ofList l.chars)]
  | .string pieces => [.scalar .double (spelled pieces)]
  | .array _ items => .flowSequenceStart :: (items.tokens true ++ [.flowSequenceEnd])
  | .object _ members => .flowMappingStart :: (members.tokens true ++ [.flowMappingEnd])

/-- The tokens of items, with a comma in front unless they are the first. -/
def Items.tokens : Items → Bool → List Token
  | .nil, _ => []
  | .cons _ item _ rest, first =>
    (if first then [] else [.flowEntry]) ++ (item.tokens ++ rest.tokens false)

/-- The tokens of members, with a comma in front unless they are the first. -/
def Members.tokens : Members → Bool → List Token
  | .nil, _ => []
  | .cons _ name _ _ value _ rest, first =>
    (if first then [] else [.flowEntry]) ++
      ([.key, .scalar .double (spelled name), .value] ++ (value.tokens ++ rest.tokens false))

end

end ScenarioSuite.Json

namespace ScenarioSuite.Json

open Reader (isNumberPart)

theorem isNumberPart_of_isDigit {c : Char} (h : c.isDigit) : isNumberPart c := by
  simp [isNumberPart, h]

theorem Literal.isNumberPart_of_mem (l : Literal) : ∀ c ∈ l.chars, isNumberPart c := by
  obtain ⟨negative, whole, fraction, exponent⟩ := l
  have digits : ∀ c ∈ Nat.toDigits 10 whole, isNumberPart c := fun c hc =>
    isNumberPart_of_isDigit (isDigit_of_mem_toDigits c hc)
  have fractions : ∀ c ∈ fractionChars fraction, isNumberPart c := by
    cases fraction with
    | none => simp [fractionChars]
    | some ds =>
      refine List.forall_mem_cons.2 ⟨rfl, fun c hc => ?_⟩
      exact isNumberPart_of_isDigit (ds.isDigit c hc)
  have exponents : ∀ c ∈ exponentChars exponent, isNumberPart c := by
    cases exponent with
    | none => simp [exponentChars]
    | some e =>
      obtain ⟨mark, isMark, sign, ds⟩ := e
      refine List.forall_mem_cons.2 ⟨?_, List.forall_mem_append.2 ⟨?_, fun c hc => ?_⟩⟩
      · rcases isMark with rfl | rfl <;> rfl
      · rcases sign with _ | _ | _ <;> simp [signChars, isNumberPart]
      · exact isNumberPart_of_isDigit (ds.isDigit c hc)
  have unsigned :=
    List.forall_mem_append.2 ⟨digits, List.forall_mem_append.2 ⟨fractions, exponents⟩⟩
  rw [chars]
  split
  · exact List.forall_mem_cons.2 ⟨rfl, unsigned⟩
  · exact unsigned

end ScenarioSuite.Json

namespace ScenarioSuite.Yaml

theorem isPart_of_isNumberPart {c : Char} (h : Json.Reader.isNumberPart c) :
    Plain.isPart c ∧ isAllowed c := by
  simp only [Json.Reader.isNumberPart, Bool.or_eq_true, beq_iff_eq] at h
  obtain ((((digit | rfl) | rfl) | rfl) | rfl) | rfl := h
  · have other {e : Char} (he : e.isDigit = false) : c ≠ e := Json.Reader.ne_of_isDigit digit he
    have lower : 48 ≤ c.toNat := (Char.isDigit_iff_toNat.1 digit).1
    have upper : c.toNat ≤ 57 := (Char.isDigit_iff_toNat.1 digit).2
    refine ⟨by simp [Plain.isPart, Plain.isFlowEnd, isSolid, isBlank, isBreak, other], ?_⟩
    simp only [isAllowed, Bool.or_eq_true, Bool.and_eq_true, decide_eq_true_eq]
    omega
  all_goals decide

end ScenarioSuite.Yaml

namespace ScenarioSuite.Yaml.Lexer

open Json (Items Layout Members Source)

variable {l : Lexer} {text rest : List Char}

theorem Ahead.layout {g : Layout} (ahead : l.Ahead (g.chars ++ text)) (flow : l.inFlow) :
    l.Ahead text := by
  obtain ⟨h, hrest, -⟩ := ahead
  exact ⟨h ++ g, by rw [hrest, Json.Layout.chars_append, List.append_assoc], .inl flow⟩

theorem ahead_of_rest_eq (h : l.cursor.rest = text) : l.Ahead text :=
  ⟨[], h, .inr List.not_mem_nil⟩

/-- The comma in front of all entries of a collection but the first. Behind it a key may begin. -/
theorem exists_reaches_entry (settled : l.Settled) (first : Bool) (allowed : first → l.keyAllowed)
    (ahead : l.Ahead (Json.Reader.comma first ++ text)) :
    ∃ l', l.Reaches l' (if first then [] else [.flowEntry]) ∧ l'.Ahead text ∧
      l'.outer.length = l.outer.length ∧ l'.keyAllowed := by
  cases first with
  | true => exact ⟨l, .refl settled, ahead, rfl, allowed rfl⟩
  | false =>
    obtain ⟨l', reached, hrest, depth, allowed'⟩ := exists_reaches_comma settled ahead
    exact ⟨l', reached, ahead_of_rest_eq hrest, depth, allowed'⟩

/-- In flow style, the lexer reads the tokens of the source up to the next flow indicator. -/
def Lexes (src : Source) : Prop :=
  ∀ (l : Lexer) (after : Layout) (d : Char) (rest : List Char), l.Settled → l.inFlow →
    Plain.isFlowEnd d → l.Ahead (src.chars ++ (after.chars ++ d :: rest)) →
      ∃ l', l.Reaches l' src.tokens ∧ l'.Ahead (d :: rest) ∧ l'.outer.length = l.outer.length

theorem exists_flowEnd_items (items : Items) (rest : List Char) :
    ∃ d rest', items.chars false ++ ']' :: rest = d :: rest' ∧ Plain.isFlowEnd d := by
  cases items with
  | nil => exact ⟨']', rest, rfl, rfl⟩
  | cons => exact ⟨',', _, rfl, rfl⟩

theorem exists_flowEnd_members (members : Members) (rest : List Char) :
    ∃ d rest', members.chars false ++ '\x7d' :: rest = d :: rest' ∧ Plain.isFlowEnd d := by
  cases members with
  | nil => exact ⟨'\x7d', rest, rfl, rfl⟩
  | cons => exact ⟨',', _, rfl, rfl⟩

theorem exists_reaches_items {items : Items} (h : ∀ src ∈ items.sources, Lexes src)
    (settled : l.Settled) (flow : l.inFlow) (first : Bool) (allowed : first → l.keyAllowed)
    (ahead : l.Ahead (items.chars first ++ ']' :: rest)) :
    ∃ l', l.Reaches l' (items.tokens first) ∧ l'.Ahead (']' :: rest) ∧
      l'.outer.length = l.outer.length := by
  induction items using Items.induction generalizing l first with
  | nil => exact ⟨l, .refl settled, ahead, rfl⟩
  | cons before src after others ih =>
    obtain ⟨hsrc, hothers⟩ := List.forall_mem_cons.1 h
    obtain ⟨d, rest', behind, flowEnd⟩ := exists_flowEnd_items others rest
    simp only [Items.chars, List.append_assoc, behind] at ahead
    obtain ⟨l₁, reached₁, ahead₁, depth₁, -⟩ := exists_reaches_entry settled first allowed ahead
    have flow₁ := (inFlow_of_length depth₁).trans flow
    obtain ⟨l₂, reached₂, ahead₂, depth₂⟩ :=
      hsrc l₁ after d rest' reached₁.settled flow₁ flowEnd (ahead₁.layout flow₁)
    have flow₂ := (inFlow_of_length depth₂).trans flow₁
    rw [← behind] at ahead₂
    obtain ⟨l₃, reached₃, ahead₃, depth₃⟩ :=
      ih hothers reached₂.settled flow₂ false (by simp) ahead₂
    exact ⟨l₃, reached₁.trans (reached₂.trans reached₃), ahead₃, by omega⟩

theorem exists_reaches_members {members : Members} (portable : members.isPortable)
    (h : ∀ m ∈ members.entries, Lexes m.2) (settled : l.Settled) (flow : l.inFlow) (first : Bool)
    (allowed : first → l.keyAllowed) (ahead : l.Ahead (members.chars first ++ '\x7d' :: rest)) :
    ∃ l', l.Reaches l' (members.tokens first) ∧ l'.Ahead ('\x7d' :: rest) ∧
      l'.outer.length = l.outer.length := by
  induction members using Members.induction generalizing l first with
  | nil => exact ⟨l, .refl settled, ahead, rfl⟩
  | cons before name mid behind value after others ih =>
    obtain ⟨hvalue, hothers⟩ := List.forall_mem_cons.1 h
    simp only [Members.isPortable, Bool.and_eq_true] at portable
    obtain ⟨⟨portableName, -⟩, portableOthers⟩ := portable
    obtain ⟨d, rest', next, flowEnd⟩ := exists_flowEnd_members others rest
    simp only [Members.chars, List.append_assoc, List.cons_append, next] at ahead
    obtain ⟨l₁, reached₁, ahead₁, depth₁, allowed₁⟩ :=
      exists_reaches_entry settled first allowed ahead
    have flow₁ := (inFlow_of_length depth₁).trans flow
    obtain ⟨l₂, reached₂, hrest₂, depth₂⟩ :=
      exists_reaches_name reached₁.settled flow₁ allowed₁ portableName (ahead₁.layout flow₁)
    have flow₂ := (inFlow_of_length depth₂).trans flow₁
    obtain ⟨l₃, reached₃, ahead₃, depth₃⟩ := hvalue l₂ after d rest' reached₂.settled flow₂ flowEnd
      (ahead_of_rest flow₂ hrest₂)
    have flow₃ := (inFlow_of_length depth₃).trans flow₂
    rw [← next] at ahead₃
    obtain ⟨l₄, reached₄, ahead₄, depth₄⟩ :=
      ih portableOthers hothers reached₃.settled flow₃ false (by simp) ahead₃
    exact ⟨l₄, reached₁.trans (reached₂.trans (reached₃.trans reached₄)), ahead₄, by omega⟩

/-- An array may stand anywhere. -/
theorem exists_reaches_array {items : Items} (h : ∀ src ∈ items.sources, Lexes src)
    (settled : l.Settled) (inside : Layout)
    (ahead : l.Ahead ((Source.array inside items).chars ++ rest)) :
    ∃ l', l.Reaches l' (Source.array inside items).tokens ∧ l'.cursor.rest = rest ∧
      l'.outer.length = l.outer.length := by
  have text : (Source.array inside items).chars ++ rest =
      '[' :: (inside.chars ++ (items.chars true ++ ']' :: rest)) := by
    simp [Source.chars]
  rw [text] at ahead
  obtain ⟨l₁, reached₁, hrest₁, depth₁, allowed₁⟩ :=
    exists_reaches_open settled (.inl ⟨rfl, rfl⟩) ahead
  have flow₁ : l₁.inFlow := inFlow_iff.2 (by omega)
  obtain ⟨l₂, reached₂, ahead₂, depth₂⟩ := exists_reaches_items h reached₁.settled flow₁ true
    (fun _ => allowed₁) (ahead_of_rest flow₁ hrest₁)
  have flow₂ := (inFlow_of_length depth₂).trans flow₁
  obtain ⟨l₃, reached₃, hrest₃, depth₃⟩ :=
    exists_reaches_close reached₂.settled flow₂ (.inl ⟨rfl, rfl⟩) ahead₂
  exact ⟨l₃, reached₁.trans (reached₂.trans reached₃), hrest₃, by omega⟩

/-- An object may stand anywhere. -/
theorem exists_reaches_object {members : Members} (portable : members.isPortable)
    (h : ∀ m ∈ members.entries, Lexes m.2) (settled : l.Settled) (inside : Layout)
    (ahead : l.Ahead ((Source.object inside members).chars ++ rest)) :
    ∃ l', l.Reaches l' (Source.object inside members).tokens ∧ l'.cursor.rest = rest ∧
      l'.outer.length = l.outer.length := by
  have text : (Source.object inside members).chars ++ rest =
      '\x7b' :: (inside.chars ++ (members.chars true ++ '\x7d' :: rest)) := by
    simp [Source.chars]
  rw [text] at ahead
  obtain ⟨l₁, reached₁, hrest₁, depth₁, allowed₁⟩ :=
    exists_reaches_open settled (.inr ⟨rfl, rfl⟩) ahead
  have flow₁ : l₁.inFlow := inFlow_iff.2 (by omega)
  obtain ⟨l₂, reached₂, ahead₂, depth₂⟩ := exists_reaches_members portable h reached₁.settled flow₁
    true (fun _ => allowed₁) (ahead_of_rest flow₁ hrest₁)
  have flow₂ := (inFlow_of_length depth₂).trans flow₁
  obtain ⟨l₃, reached₃, hrest₃, depth₃⟩ :=
    exists_reaches_close reached₂.settled flow₂ (.inr ⟨rfl, rfl⟩) ahead₂
  exact ⟨l₃, reached₁.trans (reached₂.trans reached₃), hrest₃, by omega⟩

theorem beginsWord_number (l : Json.Literal) : BeginsWord l.chars := by
  obtain ⟨c, cs, hcs, digit⟩ := l.exists_unsigned
  rw [Json.Literal.chars, hcs]
  split
  · exact .inl ⟨c, cs, rfl, digit⟩
  · exact .inr ⟨c, cs, rfl, by simp [Char.isAlphanum, digit]⟩

/-- A number or a word of JSON is read up to the next flow indicator. -/
theorem lexes_word {src : Source} (tokens : src.tokens = [.scalar .plain (String.ofList src.chars)])
    (begins : BeginsWord src.chars) (parts : ∀ c ∈ src.chars, Plain.isPart c) : Lexes src := by
  intro l after d rest settled flow flowEnd ahead
  obtain ⟨l', reached, hrest, depth⟩ := exists_reaches_word settled flow begins parts flowEnd ahead
  exact ⟨l', tokens ▸ reached, ahead_of_rest_eq hrest, depth⟩

theorem lexes {src : Source} (portable : src.isPortable) : Lexes src := by
  induction src using Source.induction with
  | null => exact lexes_word rfl (.inr ⟨_, _, rfl, rfl⟩) (List.all_eq_true.1 rfl)
  | bool b => cases b <;> exact lexes_word rfl (.inr ⟨_, _, rfl, rfl⟩) (List.all_eq_true.1 rfl)
  | number l => exact lexes_word rfl (beginsWord_number l) fun c hc =>
      (isPart_of_isNumberPart (l.isNumberPart_of_mem c hc)).1
  | string pieces =>
    intro l after d rest settled flow flowEnd ahead
    obtain ⟨l', reached, hrest, depth, -⟩ := exists_reaches_quoted settled portable ahead
    have flow' := (inFlow_of_length depth).trans flow
    exact ⟨l', reached, ahead_of_rest flow' hrest, depth⟩
  | array inside items ih =>
    have portable := Items.isPortable_iff.1 portable
    intro l after d rest settled flow flowEnd ahead
    obtain ⟨l', reached, hrest, depth⟩ :=
      exists_reaches_array (fun src hsrc => ih src hsrc (portable src hsrc)) settled inside ahead
    have flow' := (inFlow_of_length depth).trans flow
    exact ⟨l', reached, ahead_of_rest flow' hrest, depth⟩
  | object inside members ih =>
    have values := Members.isPortable_values portable
    intro l after d rest settled flow flowEnd ahead
    obtain ⟨l', reached, hrest, depth⟩ := exists_reaches_object portable
      (fun m hm => ih m hm (values m hm)) settled inside ahead
    have flow' := (inFlow_of_length depth).trans flow
    exact ⟨l', reached, ahead_of_rest flow' hrest, depth⟩

theorem Settled.forceLine {l : Lexer} (settled : l.Settled) :
    l.forceLine.Settled ∧ l.forceLine.tokens = l.tokens := by
  rw [Lexer.forceLine]
  split
  · exact ⟨settled, rfl⟩
  · exact ⟨⟨settled.pending, settled.outer, settled.indents, settled.count⟩, rfl⟩

theorem Settled.closeBlocks_eq {l : Lexer} (settled : l.Settled) : l.closeBlocks = l := by
  obtain ⟨cursor, tokens, count, indents, pending, outer, keyAllowed⟩ := l
  cases settled.indents
  rw [closeBlocks]
  split <;> rfl

/-- At the end of the text nothing is put out any more. -/
theorem exists_readAll_end (settled : l.Settled) {g : Layout} (h : l.cursor.rest = g.chars)
    (tabs : .tab ∉ g) (fuel : Nat) :
    ∃ l', readAll (fuel + 1) l = .ok l' ∧ l'.tokens = l.tokens := by
  rw [← List.append_nil g.chars] at h
  have begins : BeginsToken [] := fun c hc => by cases hc
  obtain ⟨l₁, begun, -, reads⟩ := exists_begins settled begins h (.inr tabs)
  obtain ⟨forced, tokens⟩ := begun.settled.forceLine
  rw [reads, readHere, begun.rest, forced.closeBlocks_eq, forced.dropKey_eq]
  exact ⟨_, rfl, tokens.trans begun.tokens⟩

end ScenarioSuite.Yaml.Lexer

namespace ScenarioSuite.Json

open Yaml (isAllowed Lexer Token)

/-! ## Whole texts -/

theorem Layout.isAllowed (g : Layout) : ∀ c ∈ g.chars, isAllowed c := by
  intro c hc
  obtain ⟨b, -, rfl⟩ := List.mem_map.1 hc
  cases b <;> rfl

theorem Piece.isAllowed {piece : Piece} (portable : piece.isPortable) :
    ∀ c ∈ piece.chars, isAllowed c := by
  have ascii {c : Char} (lower : 32 ≤ c.toNat) (upper : c.toNat ≤ 126) : Yaml.isAllowed c := by
    simp only [Yaml.isAllowed, Bool.or_eq_true, Bool.and_eq_true, decide_eq_true_eq]
    omega
  have digit (a : HexDigit) : Yaml.isAllowed a.char := by
    have bounds := (Yaml.Quoted.hexDigit_bounds a).2
    exact ascii (by omega) (by omega)
  cases piece with
  | raw c plain =>
    simp only [isPortable, Bool.and_eq_true] at portable
    simpa [chars] using portable.1
  | letter l c spells =>
    have allowed : Yaml.isAllowed l := by
      unfold Reader.escapedLetter? at spells
      split at spells <;> cases spells <;> decide
    simp [chars, allowed, ascii]
  | number a b c d => simp [chars, digit, ascii]

theorem isAllowed_quoted {pieces : List Piece} (portable : pieces.all Piece.isPortable) :
    ∀ c ∈ quoted pieces, isAllowed c := by
  have inside : ∀ c ∈ pieces.flatMap Piece.chars, isAllowed c := by
    intro c hc
    obtain ⟨piece, hpiece, hc⟩ := List.mem_flatMap.1 hc
    exact Piece.isAllowed (List.all_eq_true.1 portable piece hpiece) c hc
  exact List.forall_mem_cons.2 ⟨rfl, List.forall_mem_append.2 ⟨inside, List.all_eq_true.1 rfl⟩⟩

theorem isAllowed_comma (first : Bool) : ∀ c ∈ Reader.comma first, isAllowed c := by
  cases first <;> exact List.all_eq_true.1 rfl

theorem Items.isAllowed {items : Items} (h : ∀ src ∈ items.sources, ∀ c ∈ src.chars, isAllowed c)
    (first : Bool) : ∀ c ∈ items.chars first, isAllowed c := by
  induction items using Items.induction generalizing first with
  | nil => exact fun c hc => absurd hc List.not_mem_nil
  | cons before src after others ih =>
    obtain ⟨hsrc, hothers⟩ := List.forall_mem_cons.1 h
    simp only [chars, List.forall_mem_append]
    exact ⟨isAllowed_comma first, before.isAllowed, hsrc, after.isAllowed, ih hothers false⟩

theorem Members.isAllowed {members : Members} (portable : members.isPortable)
    (h : ∀ m ∈ members.entries, ∀ c ∈ m.2.chars, isAllowed c) (first : Bool) :
    ∀ c ∈ members.chars first, isAllowed c := by
  induction members using Members.induction generalizing first with
  | nil => exact fun c hc => absurd hc List.not_mem_nil
  | cons before name mid behind value after others ih =>
    obtain ⟨hvalue, hothers⟩ := List.forall_mem_cons.1 h
    simp only [Members.isPortable, isPortableName, Bool.and_eq_true] at portable
    obtain ⟨⟨⟨⟨pieces, -⟩, -⟩, -⟩, portableOthers⟩ := portable
    simp only [chars, List.forall_mem_append, List.forall_mem_cons]
    exact ⟨isAllowed_comma first, before.isAllowed, isAllowed_quoted pieces, mid.isAllowed, rfl,
      behind.isAllowed, hvalue, after.isAllowed, ih portableOthers hothers false⟩

theorem Source.isAllowed {src : Source} (portable : src.isPortable) :
    ∀ c ∈ src.chars, isAllowed c := by
  induction src using Source.induction with
  | null => exact List.all_eq_true.1 rfl
  | bool b => cases b <;> exact List.all_eq_true.1 rfl
  | number l =>
    exact fun c hc => (Yaml.isPart_of_isNumberPart (l.isNumberPart_of_mem c hc)).2
  | string pieces => exact isAllowed_quoted portable
  | array inside items ih =>
    have portable := Items.isPortable_iff.1 portable
    simp only [chars, List.forall_mem_append, List.forall_mem_cons]
    exact ⟨rfl, inside.isAllowed, Items.isAllowed (fun src hsrc => ih src hsrc (portable src hsrc))
      true, rfl, by simp⟩
  | object inside members ih =>
    have values := Members.isPortable_values portable
    simp only [chars, List.forall_mem_append, List.forall_mem_cons]
    exact ⟨rfl, inside.isAllowed, Members.isAllowed portable
      (fun m hm => ih m hm (values m hm)) true, rfl, by simp⟩

/-- Whether the source is a container. -/
def Source.isContainer : Source → Bool
  | .array .. | .object .. => true
  | _ => false

/-- Whether YAML reads the text of a file as JSON does, if it reads its numbers so: the text is a
container with no tab around it. -/
def File.isPortable (f : File) : Bool :=
  f.root.isContainer && f.root.isPortable && (f.before ++ f.after).all (· != .tab)

theorem not_tab_mem {g : Layout} (h : g.all (· != .tab)) : .tab ∉ g := fun hg => by
  simpa using List.all_eq_true.1 h _ hg

/-- A container may stand anywhere. -/
theorem Source.exists_reaches {src : Source} (container : src.isContainer)
    (portable : src.isPortable) {l : Lexer} (settled : l.Settled) {rest : List Char}
    (ahead : l.Ahead (src.chars ++ rest)) :
    ∃ l', l.Reaches l' src.tokens ∧ l'.cursor.rest = rest := by
  cases src with
  | array inside items =>
    have portable := Items.isPortable_iff.1 portable
    obtain ⟨l', reached, hrest, -⟩ := Lexer.exists_reaches_array
      (fun src hsrc => Lexer.lexes (portable src hsrc)) settled inside ahead
    exact ⟨l', reached, hrest⟩
  | object inside members =>
    have values := Members.isPortable_values portable
    obtain ⟨l', reached, hrest, -⟩ := Lexer.exists_reaches_object portable
      (fun m hm => Lexer.lexes (values m hm)) settled inside ahead
    exact ⟨l', reached, hrest⟩
  | null | bool | number | string => cases container

/-- The tokens of a file are those of its source. -/
theorem File.ofText_text {f : File} (portable : f.isPortable) :
    Token.ofText f.text = .ok f.root.tokens := by
  simp only [isPortable, Bool.and_eq_true, List.all_append] at portable
  obtain ⟨⟨container, portable⟩, before, after⟩ := portable
  let cs := f.before.chars ++ (f.root.chars ++ f.after.chars)
  have text : f.text.toList = cs := String.toList_ofList
  have allowed : ∀ c ∈ cs, isAllowed c := List.forall_mem_append.2 ⟨f.before.isAllowed,
    List.forall_mem_append.2 ⟨Source.isAllowed portable, f.after.isAllowed⟩⟩
  have settled : (Lexer.start cs).Settled := ⟨by rintro _ ⟨⟩, by simp [Lexer.start], rfl, rfl⟩
  have ahead : (Lexer.start cs).Ahead (f.root.chars ++ f.after.chars) :=
    ⟨f.before, rfl, .inr (not_tab_mem before)⟩
  obtain ⟨l, reached, hrest⟩ := Source.exists_reaches container portable settled ahead
  obtain ⟨n, length, reads⟩ := reached.reads
  have short : n ≤ cs.length := Nat.le_trans (Nat.le_add_left n _) length
  obtain ⟨l', reads', tokens⟩ :=
    Lexer.exists_readAll_end reached.settled hrest (not_tab_mem after) (cs.length - n)
  have fuel : cs.length + 1 = cs.length - n + 1 + n := by omega
  have none : cs.find? (fun c => !isAllowed c) = none := by
    simpa using allowed
  simp only [Token.ofText, text, none]
  rw [fuel, reads, reads', ok_bind, tokens, reached.tokens, List.reverse_append,
    List.reverse_reverse]
  rfl

end ScenarioSuite.Json
