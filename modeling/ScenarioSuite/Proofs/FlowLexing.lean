import ScenarioSuite.Proofs.Outcome
import ScenarioSuite.Proofs.SourceScalars

/-!
# Tokens of flow style

Inside flow collections the indentation does not matter, and a key is pending only up to the next
token or the colon behind it. So a piece of flow style puts out the same tokens wherever it stands:
all that the lexer keeps for later are keys that need not be keys.

## Main definitions

* `Lexer.Settled`: no pending key must be one, and no block collection is open.
* `Lexer.Ahead`: the text that follows behind blanks.
* `Lexer.Reaches`: from one state the lexer comes to another, with some tokens between them.

## Main statements

* `Lexer.exists_begins`: the way to the next token.
* `Lexer.exists_reaches_open`, `Lexer.exists_reaches_close`, `Lexer.exists_reaches_comma`,
  `Lexer.exists_reaches_quoted`, `Lexer.exists_reaches_name`, `Lexer.exists_reaches_word`: the
  tokens of flow style.
-/

namespace ScenarioSuite.Yaml

open Json (Blank Layout Piece isPortableName quoted spelled)

/-- The text begins with no blank, no end of a line, no comment and no mark of the byte order. -/
def BeginsToken (text : List Char) : Prop :=
  ∀ c ∈ text.head?, isSolid c ∧ c ≠ '#' ∧ c ≠ '\ufeff'

theorem BeginsToken.cons {c : Char} (h : isSolid c ∧ c ≠ '#' ∧ c ≠ '\ufeff') (rest : List Char) :
    BeginsToken (c :: rest) := by
  intro d hd
  cases hd
  exact h

namespace Lexer

/-- Without the blank ahead nothing changes. -/
theorem skipToToken_blank {l : Lexer} {d : Char} {rest : List Char} (fuel : Nat)
    (h : l.cursor.rest = d :: rest) (blank : d = ' ' ∨ d = '\t' ∧ l.allowsTab) :
    skipToToken (fuel + 1) l = skipToToken (fuel + 1) { l with cursor := l.cursor.skip 1 } := by
  have hp : (d == ' ' || (d == '\t' && l.allowsTab)) = true := by
    rcases blank with rfl | ⟨rfl, tab⟩
    · rfl
    · simp [tab]
  have hd : d ≠ '\ufeff' := by
    rcases blank with rfl | ⟨rfl, tab⟩ <;> decide
  have allowsTab : allowsTab { l with cursor := l.cursor.skip 1 } = l.allowsTab := rfl
  have skipped : l.cursor.skipWhile (fun d => d == ' ' || (d == '\t' && l.allowsTab)) =
      (l.cursor.skip 1).skipWhile (fun d => d == ' ' || (d == '\t' && l.allowsTab)) := by
    simp [Cursor.skipWhile, Cursor.span, Cursor.skip, h, hp, Nat.add_assoc, Nat.add_comm 1]
  have first : (l.cursor.index == 0 && l.cursor.rest.head? == some '\ufeff') = false := by
    simp [h, hd]
  have later : ((l.cursor.skip 1).index == 0 && (l.cursor.skip 1).rest.head? == some '\ufeff') =
      false := by
    simp [Cursor.skip]
  simp only [skipToToken, first, later, allowsTab, Bool.false_eq_true, if_false, skipped]
  rfl

/-- The end of a line is passed over. In block style a key may begin behind it. -/
theorem skipToToken_break {l : Lexer} {b : Char} {rest : List Char} (fuel : Nat)
    (h : l.cursor.rest = b :: rest) (isBreak : Yaml.isBreak b) (hb : b ≠ '\ufeff') :
    skipToToken (fuel + 1) l =
      skipToToken fuel
        { l with cursor := l.cursor.skipBreak, keyAllowed := l.keyAllowed || !l.inFlow } := by
  have space : (b == ' ' || (b == '\t' && l.allowsTab)) = false := by
    have hs : b ≠ ' ' := by rintro rfl; cases isBreak
    have ht : b ≠ '\t' := by rintro rfl; cases isBreak
    simp [hs, ht]
  have comment : b ≠ '#' := by rintro rfl; cases isBreak
  have stays : l.cursor.skipWhile (fun d => d == ' ' || (d == '\t' && l.allowsTab)) = l.cursor := by
    obtain ⟨⟨rest, index, line, column⟩, tokens, count, indents, pending, outer, keyAllowed⟩ := l
    cases h
    simp [Cursor.skipWhile, Cursor.span, space]
  have first : (l.cursor.index == 0 && l.cursor.rest.head? == some '\ufeff') = false := by
    simp [h, hb]
  have ahead : l.cursor.rest.head?.any Yaml.isBreak = true := by simp [h, isBreak]
  have noComment : (l.cursor.rest.head? == some '#') = false := by simp [h, comment]
  simp only [skipToToken, first, stays, noComment, ahead, Bool.false_eq_true, if_false, if_true]

theorem skipToToken_stays {l : Lexer} (fuel : Nat) (begins : BeginsToken l.cursor.rest) :
    skipToToken (fuel + 1) l = l := by
  obtain ⟨⟨rest, index, line, column⟩, tokens, count, indents, pending, outer, keyAllowed⟩ := l
  cases rest with
  | nil => simp [skipToToken, Cursor.skipWhile, Cursor.span]
  | cons c rest =>
    obtain ⟨solid, comment, mark⟩ := begins c rfl
    simp only [isSolid, isBlank, Bool.and_eq_true, Bool.not_eq_true', Bool.or_eq_false_iff] at solid
    simp [skipToToken, Cursor.skipWhile, Cursor.span, solid.1.1, solid.1.2, solid.2, comment, mark]

/-- Blanks ahead are passed over. Outside flow collections there must be no tab among them. -/
theorem exists_skipToToken {text : List Char} (begins : BeginsToken text) (g : Layout) {l : Lexer}
    (h : l.cursor.rest = g.chars ++ text) (tabs : l.inFlow ∨ .tab ∉ g) {fuel : Nat}
    (enough : g.length < fuel) :
    ∃ c allowed, skipToToken fuel l = { l with cursor := c, keyAllowed := allowed } ∧
      c.rest = text ∧ (l.keyAllowed → allowed) ∧
      (g.all (!·.isBreak) → c = l.cursor.skip g.length) := by
  induction hn : g.length using Nat.strongRecOn generalizing g l fuel with
  | ind n ih =>
    subst hn
    obtain _ | fuel := fuel
    · exact absurd enough (Nat.not_lt_zero _)
    cases g with
    | nil =>
      exact ⟨l.cursor, l.keyAllowed, skipToToken_stays fuel (by rw [h]; exact begins), h, id,
        fun _ => rfl⟩
    | cons b g =>
      rw [List.length_cons] at enough ih
      have tabs' : l.inFlow ∨ .tab ∉ g := tabs.imp id fun h hg => h (List.mem_cons_of_mem b hg)
      by_cases isBreak : b.isBreak
      · obtain ⟨g', hg', shorter, among⟩ :=
          exists_skipBreak isBreak g (fun c hc => (begins c hc).1) l.cursor h
        have tabs' : l.inFlow ∨ .tab ∉ g' := tabs'.imp id fun h hg => h (among _ hg)
        rw [skipToToken_break fuel h (by cases b <;> trivial) (by cases b <;> decide)]
        obtain ⟨c, allowed, hc, hrest, hallowed, -⟩ := ih g'.length (by omega) g'
          (l := { l with cursor := l.cursor.skipBreak, keyAllowed := l.keyAllowed || !l.inFlow })
          hg' tabs' (show g'.length < fuel by omega) rfl
        exact ⟨c, allowed, hc, hrest, fun ha => hallowed (by simp [ha]), by simp [isBreak]⟩
      · have blank : b.char = ' ' ∨ b.char = '\t' ∧ l.allowsTab := by
          cases b with
          | space => exact .inl rfl
          | tab => simp_all [allowsTab, Blank.char]
          | newline | carriageReturn => exact absurd rfl isBreak
        have hrest : (l.cursor.skip 1).rest = Layout.chars g ++ text := by
          rw [Cursor.skip, h]
          rfl
        rw [skipToToken_blank fuel h blank]
        obtain ⟨c, allowed, hc, hrest, hallowed, line⟩ := ih g.length (Nat.lt_succ_self _) g
          (l := { l with cursor := l.cursor.skip 1 }) hrest tabs'
          (show g.length < fuel + 1 by omega) rfl
        refine ⟨c, allowed, hc, hrest, hallowed, fun flat => ?_⟩
        rw [List.all_cons, Bool.and_eq_true] at flat
        rw [line flat.2, skip_skip, List.length_cons, Nat.add_comm]

/-- No pending key must be one, and no block collection is open. -/
structure Settled (l : Lexer) : Prop where
  pending : ∀ key ∈ l.pending, key.required = false
  outer : ∀ p ∈ l.outer, ∀ key ∈ p, key.required = false
  indents : l.indents = []
  count : l.count = l.tokens.length

theorem exists_dropStale (c : Cursor) {p : Option PendingKey}
    (h : ∀ key ∈ p, key.required = false) :
    ∃ p', dropStale c p = .ok p' ∧ (∀ key ∈ p', key.required = false) ∧
      ∀ key, p = some key → key.place.line = c.line → c.index ≤ key.place.index + longestKey →
        p' = some key := by
  cases p with
  | none => exact ⟨none, rfl, by simp, by simp⟩
  | some key =>
    have required := h key rfl
    rw [dropStale]
    by_cases stale : key.place.line < c.line || key.place.index + longestKey < c.index
    · refine ⟨none, by simp [stale, required], by simp, ?_⟩
      intro key hkey line near
      cases hkey
      simp only [Bool.or_eq_true, decide_eq_true_eq] at stale
      omega
    · exact ⟨some key, by simp [stale], h, fun key hkey _ _ => hkey⟩

theorem exists_mapM_dropStale (c : Cursor) {outer : List (Option PendingKey)}
    (h : ∀ p ∈ outer, ∀ key ∈ p, key.required = false) :
    ∃ outer', outer.mapM (dropStale c) = .ok outer' ∧ outer'.length = outer.length ∧
      ∀ p ∈ outer', ∀ key ∈ p, key.required = false := by
  induction outer with
  | nil => exact ⟨[], rfl, rfl, by simp⟩
  | cons p outer ih =>
    obtain ⟨hp, houter⟩ := List.forall_mem_cons.1 h
    obtain ⟨p', hp', required, -⟩ := exists_dropStale c hp
    obtain ⟨outer', houter', length, required'⟩ := ih houter
    refine ⟨p' :: outer', ?_, by simp [length], List.forall_mem_cons.2 ⟨required, required'⟩⟩
    rw [List.mapM_cons, hp', houter']
    rfl

theorem Settled.closeDeeper_eq {l : Lexer} (settled : l.Settled) (column : Nat) :
    l.closeDeeper column = l := by
  obtain ⟨cursor, tokens, count, indents, pending, outer, keyAllowed⟩ := l
  cases settled.indents
  rw [closeDeeper]
  split <;> rfl

/-- The lexer at its next token, behind the blanks. -/
structure Begins (l l₁ : Lexer) (text : List Char) : Prop where
  settled : l₁.Settled
  rest : l₁.cursor.rest = text
  tokens : l₁.tokens = l.tokens
  depth : l₁.outer.length = l.outer.length
  keyAllowed : l.keyAllowed → l₁.keyAllowed
  /-- The pending key stays, unless its line has ended or it is too long. -/
  pending : ∀ key, l.pending = some key → key.place.line = l₁.cursor.line →
    l₁.cursor.index ≤ key.place.index + longestKey → l₁.pending = some key

/-- What the lexer does where a token begins, or at the end of the text. -/
def readHere (fuel : Nat) (l : Lexer) : Except Fault Lexer :=
  match l.cursor.rest with
  | [] => l.forceLine.closeBlocks.dropKey
  | c :: rest => l.readToken c rest >>= readAll fuel

theorem exists_begins {l : Lexer} (settled : l.Settled) {g : Layout} {text : List Char}
    (begins : BeginsToken text) (h : l.cursor.rest = g.chars ++ text)
    (tabs : l.inFlow ∨ .tab ∉ g) :
    ∃ l₁, l.Begins l₁ text ∧ (g.all (!·.isBreak) → l₁.cursor = l.cursor.skip g.length) ∧
      ∀ fuel, readAll (fuel + 1) l = readHere fuel l₁ := by
  have enough : g.length < l.cursor.rest.length + 1 := by
    rw [h, List.length_append, Layout.chars, List.length_map]
    omega
  obtain ⟨c, allowed, hskip, hrest, hallowed, line⟩ := exists_skipToToken begins g h tabs enough
  obtain ⟨pending, hpending, required, kept⟩ := exists_dropStale c settled.pending
  obtain ⟨outer, houter, depth, required'⟩ := exists_mapM_dropStale c settled.outer
  have settled₁ : Settled { l with cursor := c, pending, outer, keyAllowed := allowed } :=
    ⟨required, required', settled.indents, settled.count⟩
  refine ⟨_, ⟨settled₁, hrest, rfl, depth, hallowed, kept⟩, line, fun fuel => ?_⟩
  have dropped : dropStaleKeys { l with cursor := c, keyAllowed := allowed } =
      .ok { l with cursor := c, pending, outer, keyAllowed := allowed } := by
    simp only [dropStaleKeys, hpending, houter]
    rfl
  rw [readAll, hskip, dropped, ok_bind, settled₁.closeDeeper_eq]
  rfl

/-- From `l` the lexer comes to `l'`, and puts out tokens on its way. -/
structure Reaches (l l' : Lexer) (ts : List Token) : Prop where
  settled : l'.Settled
  tokens : l'.tokens = ts.reverse ++ l.tokens
  reads : ∃ n, l'.cursor.rest.length + n ≤ l.cursor.rest.length ∧
    ∀ fuel, readAll (fuel + n) l = readAll fuel l'

namespace Reaches

protected theorem refl {l : Lexer} (settled : l.Settled) : l.Reaches l [] :=
  ⟨settled, rfl, 0, Nat.le_refl _, fun _ => rfl⟩

protected theorem trans {l l' l'' : Lexer} {ts ts' : List Token} (h : l.Reaches l' ts)
    (h' : l'.Reaches l'' ts') : l.Reaches l'' (ts ++ ts') := by
  obtain ⟨-, tokens, n, length, reads⟩ := h
  obtain ⟨settled, tokens', n', length', reads'⟩ := h'
  refine ⟨settled, by simp [tokens, tokens'], n' + n, by omega, fun fuel => ?_⟩
  rw [← Nat.add_assoc, reads, reads']

end Reaches

/-- Blanks, and then the text, are ahead. Outside flow collections there is no tab among the
blanks. -/
def Ahead (l : Lexer) (text : List Char) : Prop :=
  ∃ g : Layout, l.cursor.rest = g.chars ++ text ∧ (l.inFlow ∨ .tab ∉ g)

theorem inFlow_iff {l : Lexer} : l.inFlow ↔ 0 < l.outer.length := by
  rw [inFlow]
  cases l.outer <;> simp

theorem inFlow_of_length {l l' : Lexer} (depth : l'.outer.length = l.outer.length) :
    l'.inFlow = l.inFlow := by
  rw [Bool.eq_iff_iff, inFlow_iff, inFlow_iff, depth]

/-- What a token does where it begins, the lexer does at the blanks in front of it. -/
theorem exists_reaches {l : Lexer} (settled : l.Settled) {c : Char} {rest : List Char}
    (begins : BeginsToken (c :: rest)) (ahead : l.Ahead (c :: rest)) {ts : List Token}
    {post : Lexer → Prop}
    (read : ∀ l₁, l.Begins l₁ (c :: rest) → ∃ l', l₁.readToken c rest = .ok l' ∧ l'.Settled ∧
      l'.tokens = ts.reverse ++ l₁.tokens ∧ l'.cursor.rest.length ≤ rest.length ∧ post l') :
    ∃ l', l.Reaches l' ts ∧ post l' := by
  obtain ⟨g, hrest, tabs⟩ := ahead
  obtain ⟨l₁, begun, -, reads⟩ := exists_begins settled begins hrest tabs
  obtain ⟨l', hl', settled', tokens, shorter, hpost⟩ := read l₁ begun
  refine ⟨l', ⟨settled', by rw [tokens, begun.tokens], 1, ?_, fun fuel => ?_⟩, hpost⟩
  · simp only [hrest, List.length_append, List.length_cons]
    omega
  · rw [reads, readHere, begun.rest]
    simp only [hl', ok_bind]

/-! ## Indicators -/

theorem Settled.dropKey_eq {l : Lexer} (settled : l.Settled) :
    l.dropKey = .ok { l with pending := none } := by
  have required : l.pending.any (·.required) = false := by
    cases h : l.pending with
    | none => rfl
    | some key => exact settled.pending key h
  simp [dropKey, required]

theorem Settled.exists_markKey {l : Lexer} (settled : l.Settled) :
    ∃ pending, l.markKey = .ok { l with pending } ∧ (∀ key ∈ pending, key.required = false) ∧
      (l.keyAllowed → pending = some ⟨false, l.count, l.cursor⟩) := by
  rw [markKey]
  by_cases allowed : l.keyAllowed
  · refine ⟨some ⟨false, l.count, l.cursor⟩, ?_, by simp, fun _ => rfl⟩
    simp [allowed, settled.indents, settled.dropKey_eq, ok_bind, pure, Except.pure]
  · exact ⟨l.pending, by rw [if_neg allowed], settled.pending, fun h => absurd h allowed⟩

/-- Where only blanks are left out, the text is ahead. -/
theorem ahead_of_rest {l : Lexer} (flow : l.inFlow) {g : Layout} {text : List Char}
    (h : l.cursor.rest = g.chars ++ text) : l.Ahead text :=
  ⟨g, h, .inl flow⟩

theorem Begins.not_atMarker {l l₁ : Lexer} {c : Char} {rest : List Char}
    (begun : l.Begins l₁ (c :: rest)) (h : isMarker (c :: rest) = false) :
    l₁.cursor.isAtMarker = false := by
  simp [Cursor.isAtMarker, begun.rest, h]

theorem Begins.rest_skip {l l₁ : Lexer} {c : Char} {rest : List Char}
    (begun : l.Begins l₁ (c :: rest)) : (l₁.cursor.skip 1).rest = rest := by
  simp [Cursor.skip, begun.rest]

/-- A bracket opens a collection, in which keys may begin. -/
theorem exists_reaches_open {l : Lexer} (settled : l.Settled) {c : Char} {t : Token}
    (bracket : c = '[' ∧ t = .flowSequenceStart ∨ c = '\x7b' ∧ t = .flowMappingStart)
    {rest : List Char} (ahead : l.Ahead (c :: rest)) :
    ∃ l', l.Reaches l' [t] ∧ l'.cursor.rest = rest ∧ l'.outer.length = l.outer.length + 1 ∧
      l'.keyAllowed := by
  have begins : BeginsToken (c :: rest) :=
    .cons (by rcases bracket with ⟨rfl, -⟩ | ⟨rfl, -⟩ <;> decide) rest
  refine exists_reaches settled begins ahead fun l₁ begun => ?_
  have marker := begun.not_atMarker (by rcases bracket with ⟨rfl, -⟩ | ⟨rfl, -⟩ <;> rfl)
  have read : l₁.readToken c rest = l₁.openFlow t := by
    rcases bracket with ⟨rfl, rfl⟩ | ⟨rfl, rfl⟩ <;> simp [readToken, marker]
  obtain ⟨pending, hmark, required, -⟩ := begun.settled.exists_markKey
  have moved := begun.rest_skip
  rw [read, openFlow, hmark, ok_bind]
  refine ⟨_, rfl, ⟨by simp, ?_, begun.settled.indents, ?_⟩, rfl, ?_, moved, ?_, rfl⟩
  · rintro p (_ | ⟨_, hp⟩)
    · exact required
    · exact begun.settled.outer p hp
  · exact congrArg (· + 1) begun.settled.count
  · exact Nat.le_of_eq (congrArg List.length moved)
  · exact congrArg (· + 1) begun.depth

/-- A bracket closes the collection. -/
theorem exists_reaches_close {l : Lexer} (settled : l.Settled) (flow : l.inFlow) {c : Char}
    {t : Token}
    (bracket : c = ']' ∧ t = .flowSequenceEnd ∨ c = '\x7d' ∧ t = .flowMappingEnd)
    {rest : List Char} (ahead : l.Ahead (c :: rest)) :
    ∃ l', l.Reaches l' [t] ∧ l'.cursor.rest = rest ∧ l'.outer.length + 1 = l.outer.length := by
  have begins : BeginsToken (c :: rest) :=
    .cons (by rcases bracket with ⟨rfl, -⟩ | ⟨rfl, -⟩ <;> decide) rest
  refine exists_reaches settled begins ahead fun l₁ begun => ?_
  have marker := begun.not_atMarker (by rcases bracket with ⟨rfl, -⟩ | ⟨rfl, -⟩ <;> rfl)
  have read : l₁.readToken c rest = l₁.closeFlow t := by
    rcases bracket with ⟨rfl, rfl⟩ | ⟨rfl, rfl⟩ <;> simp [readToken, marker]
  have moved := begun.rest_skip
  have depth := begun.depth
  cases houter : l₁.outer with
  | nil =>
    have inside := (inFlow_of_length begun.depth).trans flow
    simp [inFlow, houter] at inside
  | cons p outer =>
    have required := begun.settled.outer
    rw [houter] at required depth
    obtain ⟨hp, houter'⟩ := List.forall_mem_cons.1 required
    rw [read, closeFlow, begun.settled.dropKey_eq, ok_bind]
    simp only [houter]
    refine ⟨_, rfl, ⟨hp, houter', begun.settled.indents, ?_⟩, rfl, ?_, moved, depth⟩
    · exact congrArg (· + 1) begun.settled.count
    · exact Nat.le_of_eq (congrArg List.length moved)

/-- Behind a comma keys may begin. -/
theorem exists_reaches_comma {l : Lexer} (settled : l.Settled) {rest : List Char}
    (ahead : l.Ahead (',' :: rest)) :
    ∃ l', l.Reaches l' [.flowEntry] ∧ l'.cursor.rest = rest ∧ l'.outer.length = l.outer.length ∧
      l'.keyAllowed := by
  refine exists_reaches settled (.cons (by decide) _) ahead fun l₁ begun => ?_
  have marker := begun.not_atMarker rfl
  have read : l₁.readToken ',' rest = l₁.readFlowEntry := by simp [readToken, marker]
  have moved := begun.rest_skip
  rw [read, readFlowEntry, begun.settled.dropKey_eq, ok_bind]
  refine ⟨_, rfl, ⟨by rintro _ ⟨⟩, begun.settled.outer, begun.settled.indents, ?_⟩, rfl, ?_, moved,
    begun.depth, rfl⟩
  · exact congrArg (· + 1) begun.settled.count
  · exact Nat.le_of_eq (congrArg List.length moved)

/-! ## Scalars -/

/-- A string is a scalar in double quotes. -/
theorem exists_reaches_quoted {l : Lexer} (settled : l.Settled) {pieces : List Piece}
    (portable : pieces.all Piece.isPortable) {rest : List Char}
    (ahead : l.Ahead (quoted pieces ++ rest)) :
    ∃ l', l.Reaches l' [.scalar .double (spelled pieces)] ∧
      (l'.cursor.rest = rest ∧ l'.outer.length = l.outer.length ∧
      (l.keyAllowed → ∃ place, l'.pending = some ⟨false, l'.count - 1, place⟩ ∧
        l'.cursor = place.skip (quoted pieces).length)) := by
  have text : quoted pieces ++ rest = '"' :: (pieces.flatMap Piece.chars ++ '"' :: rest) := by
    simp [quoted]
  rw [text] at ahead
  refine exists_reaches settled (.cons (by decide) _) ahead fun l₁ begun => ?_
  have marker := begun.not_atMarker rfl
  have read : l₁.readToken '"' (pieces.flatMap Piece.chars ++ '"' :: rest) =
      l₁.readQuoted .double := by
    simp [readToken, marker]
  obtain ⟨pending, hmark, required, marked⟩ := begun.settled.exists_markKey
  have hrest : l₁.cursor.rest = quoted pieces ++ rest := by rw [begun.rest, text]
  have taken := Quoted.read_quoted (List.all_eq_true.1 portable) hrest
  have moved : (l₁.cursor.skip (quoted pieces).length).rest = rest := by
    rw [Cursor.skip, hrest, List.drop_left]
  have double : (Style.double == Style.single) = false := rfl
  rw [read, readQuoted, hmark, ok_bind, double]
  simp only [taken, ok_bind]
  refine ⟨_, rfl, ⟨required, begun.settled.outer, begun.settled.indents, ?_⟩, rfl, ?_, moved,
    begun.depth, fun allowed => ⟨l₁.cursor, marked (begun.keyAllowed allowed), rfl⟩⟩
  · exact congrArg (· + 1) begun.settled.count
  · change (l₁.cursor.skip (quoted pieces).length).rest.length ≤ _
    rw [moved]
    simp only [List.length_append, List.length_cons]
    omega

/-- A colon on the line of its key puts the mark of the key in front of it. -/
theorem exists_reaches_colon {l : Lexer} (settled : l.Settled) (flow : l.inFlow) {place : Cursor}
    (pending : l.pending = some ⟨false, l.count - 1, place⟩) {length : Nat}
    (cursor : l.cursor = place.skip length) {mid : Layout} (flat : mid.all (!·.isBreak))
    (short : length + mid.length ≤ longestKey) {t : Token} {ts : List Token}
    (tokens : l.tokens = t :: ts) {rest : List Char}
    (h : l.cursor.rest = mid.chars ++ ':' :: rest) :
    ∃ l', l'.Settled ∧ l'.tokens = .value :: t :: .key :: ts ∧ l'.cursor.rest = rest ∧
      l'.outer.length = l.outer.length ∧ ∀ fuel, readAll (fuel + 1) l = readAll fuel l' := by
  have begins : BeginsToken (':' :: rest) := .cons (by decide) rest
  obtain ⟨l₁, begun, line, reads⟩ := exists_begins settled begins h (.inl flow)
  have cursor₁ := line flat
  have pending₁ : l₁.pending = some ⟨false, l.count - 1, place⟩ := by
    refine begun.pending _ pending ?_ ?_
    · rw [cursor₁, cursor]
      rfl
    · simp only [cursor₁, cursor, Cursor.skip]
      omega
  have flow₁ : l₁.inFlow := (inFlow_of_length begun.depth).trans flow
  have count : l₁.count - (l.count - 1) = 1 := by
    rw [begun.settled.count, begun.tokens, settled.count, tokens]
    simp
  have marker := begun.not_atMarker rfl
  have read : l₁.readToken ':' rest = l₁.readValue := by simp [readToken, marker, flow₁]
  have moved := begun.rest_skip
  have inserted : (l₁.insertAt (l.count - 1) .key).openBlock place.column (l.count - 1)
      .blockMappingStart = { l₁ with tokens := t :: .key :: ts, count := l₁.count + 1 } := by
    have flow₂ : (l₁.insertAt (l.count - 1) .key).inFlow := flow₁
    rw [openBlock, flow₂, Bool.true_or, if_pos rfl, insertAt, count, begun.tokens, tokens]
    rfl
  let l' : Lexer := { l₁ with
    tokens := .value :: t :: .key :: ts, count := l₁.count + 1 + 1, cursor := l₁.cursor.skip 1,
    pending := none, keyAllowed := false }
  have value : l₁.readValue = .ok l' := by
    simp only [readValue, pending₁, inserted]
    rfl
  refine ⟨l', ⟨by rintro _ ⟨⟩, begun.settled.outer, begun.settled.indents, ?_⟩, rfl, moved,
    begun.depth, fun fuel => ?_⟩
  · simp only [l', begun.settled.count, begun.tokens, tokens, List.length_cons]
  · rw [reads, readHere, begun.rest]
    simp only [read, value, ok_bind]

/-- The name of a member, with its colon, is a key. -/
theorem exists_reaches_name {l : Lexer} (settled : l.Settled) (flow : l.inFlow)
    (allowed : l.keyAllowed) {name : List Piece} {mid : Layout}
    (portable : isPortableName name mid) {rest : List Char}
    (ahead : l.Ahead (quoted name ++ (mid.chars ++ ':' :: rest))) :
    ∃ l', l.Reaches l' [.key, .scalar .double (spelled name), .value] ∧ l'.cursor.rest = rest ∧
      l'.outer.length = l.outer.length := by
  simp only [isPortableName, Bool.and_eq_true, decide_eq_true_eq] at portable
  obtain ⟨⟨pieces, flat⟩, short⟩ := portable
  obtain ⟨l₁, reached, hrest, depth, key⟩ := exists_reaches_quoted settled pieces ahead
  obtain ⟨place, pending, cursor⟩ := key allowed
  have flow₁ := (inFlow_of_length depth).trans flow
  obtain ⟨l', settled', tokens, hrest', depth', reads'⟩ :=
    exists_reaches_colon reached.settled flow₁ pending cursor flat short reached.tokens hrest
  obtain ⟨n, length, reads⟩ := reached.reads
  refine ⟨l', ⟨settled', tokens, n + 1, ?_, fun fuel => ?_⟩, hrest', depth'.trans depth⟩
  · have shorter : rest.length + 1 ≤ l₁.cursor.rest.length := by
      rw [hrest, List.length_append, List.length_cons]
      omega
    rw [hrest']
    omega
  · rw [Nat.add_comm n, ← Nat.add_assoc, reads, reads']

/-- What a number or a word of JSON begins with. -/
def BeginsWord (word : List Char) : Prop :=
  (∃ d rest, word = '-' :: d :: rest ∧ d.isDigit) ∨ ∃ c rest, word = c :: rest ∧ c.isAlphanum

theorem BeginsWord.append {word : List Char} (h : BeginsWord word) (rest : List Char) :
    BeginsWord (word ++ rest) := by
  rcases h with ⟨d, ds, rfl, digit⟩ | ⟨c, cs, rfl, alphanum⟩
  · exact .inl ⟨d, ds ++ rest, rfl, digit⟩
  · exact .inr ⟨c, cs ++ rest, rfl, alphanum⟩

theorem ne_of_isAlphanum {c d : Char} (hc : c.isAlphanum) (hd : d.isAlphanum = false) : c ≠ d := by
  rintro rfl
  rw [hc] at hd
  cases hd

theorem BeginsWord.beginsToken {word : List Char} (h : BeginsWord word) : BeginsToken word := by
  rcases h with ⟨d, ds, rfl, digit⟩ | ⟨c, cs, rfl, alphanum⟩
  · exact .cons (by decide) _
  · have other {e : Char} (he : e.isAlphanum = false) : c ≠ e := ne_of_isAlphanum alphanum he
    exact .cons ⟨by simp [isSolid, isBlank, isBreak, other], other rfl, other rfl⟩ cs

theorem BeginsWord.isMarker_eq_false {word : List Char} (h : BeginsWord word) :
    isMarker word = false := by
  rcases h with ⟨d, ds, rfl, digit⟩ | ⟨c, cs, rfl, alphanum⟩
  · have hd : d ≠ '-' := Json.Reader.ne_of_isDigit digit rfl
    simp [isMarker, hd]
  · have minus : c ≠ '-' := ne_of_isAlphanum alphanum rfl
    have point : c ≠ '.' := ne_of_isAlphanum alphanum rfl
    simp [isMarker, minus, point]

theorem isAlphanum_of_mem_indicators : ∀ c ∈ indicators, c.isAlphanum = false := by
  have none : indicators.all (!·.isAlphanum) := by decide
  simpa using none

theorem readToken_word {l : Lexer} {c : Char} {rest : List Char} (hc : l.cursor.rest = c :: rest)
    (begins : BeginsWord (c :: rest)) : l.readToken c rest = l.readPlain := by
  have marker : l.cursor.isAtMarker = false := by
    simp [Cursor.isAtMarker, hc, begins.isMarker_eq_false]
  have solid : isSolid c = true := (begins.beginsToken c rfl).1
  rcases begins with ⟨d, ds, hds, digit⟩ | ⟨c', cs, hcs, alphanum⟩
  · cases hds
    have other {e : Char} (he : e.isDigit = false) : d ≠ e := Json.Reader.ne_of_isDigit digit he
    have solid : isSolid d = true := by simp [isSolid, isBlank, isBreak, other]
    have blank : isBlank d = false := by simp [isBlank, other]
    simp [readToken, marker, isBlankOrEnd, solid, beginsPlain, blank]
  · cases hcs
    have other {e : Char} (he : e.isAlphanum = false) : c ≠ e := ne_of_isAlphanum alphanum he
    have plain : c ∉ indicators := fun h => other (isAlphanum_of_mem_indicators c h) rfl
    simp [readToken, marker, beginsPlain, solid, plain, other]

/-- A number or a word is a plain scalar. -/
theorem exists_reaches_word {l : Lexer} (settled : l.Settled) (flow : l.inFlow) {word : List Char}
    (begins : BeginsWord word) (parts : ∀ c ∈ word, Plain.isPart c) {g : Layout} {d : Char}
    (flowEnd : Plain.isFlowEnd d) {rest : List Char}
    (ahead : l.Ahead (word ++ (g.chars ++ d :: rest))) :
    ∃ l', l.Reaches l' [.scalar .plain (String.ofList word)] ∧ l'.cursor.rest = d :: rest ∧
      l'.outer.length = l.outer.length := by
  have begins' := begins.append (g.chars ++ d :: rest)
  have marker := begins'.isMarker_eq_false
  have comment : word.head? ≠ some '#' := fun h => (begins.beginsToken '#' h).2.1 rfl
  obtain ⟨c, cs, rfl⟩ : ∃ c cs, word = c :: cs := by
    rcases begins with ⟨d, ds, rfl, -⟩ | ⟨c, cs, rfl, -⟩
    · exact ⟨_, _, rfl⟩
    · exact ⟨_, _, rfl⟩
  refine exists_reaches settled begins'.beginsToken ahead fun l₁ begun => ?_
  have flow₁ : l₁.inFlow := (inFlow_of_length begun.depth).trans flow
  have read := readToken_word begun.rest begins'
  obtain ⟨pending, hmark, required, -⟩ := begun.settled.exists_markKey
  obtain ⟨broken, c', taken, moved⟩ := Plain.exists_read parts (List.cons_ne_nil c cs) comment g
    flowEnd begun.rest (begun.rest ▸ marker)
  have indent : plainIndent { l₁ with pending } = 0 := by simp [plainIndent, begun.settled.indents]
  have flow₂ : inFlow { l₁ with pending } = true := flow₁
  rw [read, readPlain, hmark, ok_bind]
  simp only [indent, flow₂, taken, ok_bind]
  refine ⟨_, rfl, ⟨required, begun.settled.outer, begun.settled.indents, ?_⟩, rfl, ?_, moved,
    begun.depth⟩
  · exact congrArg (· + 1) begun.settled.count
  · change c'.rest.length ≤ (cs ++ (g.chars ++ d :: rest)).length
    rw [moved]
    simp only [List.length_append, List.length_cons]
    omega

end Lexer

end ScenarioSuite.Yaml
