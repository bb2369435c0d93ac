import ScenarioSuite.Proofs.Outcome
import ScenarioSuite.Proofs.SourceReading

/-!
# Scalars of JSON in YAML

A string of JSON is a scalar in double quotes, and a number or a word is a plain scalar. In a string
each run of spaces is a gap for YAML. A plain scalar in flow style goes on up to the next flow
indicator, over blanks and ends of lines; they stand for nothing behind the last run.

## Main statements

* `Yaml.Quoted.read_quoted`: a string is read as what it says.
* `Yaml.Plain.exists_read`: a word is read as it is.
-/

namespace ScenarioSuite.Yaml

open Json (Blank HexDigit Layout Piece quoted)

theorem skip_skip (c : Cursor) (m n : Nat) : (c.skip m).skip n = c.skip (m + n) := by
  simp [Cursor.skip, List.drop_drop, Nat.add_assoc]

theorem skip_zero (c : Cursor) : c.skip 0 = c := rfl

/-! ## Blanks -/

theorem skipBreak_newline {c : Cursor} {rest : List Char} (h : c.rest = '\n' :: rest) :
    c.skipBreak.rest = rest := by
  simp [Cursor.skipBreak, Cursor.takeBreak, h, isBreak, Cursor.nextLine]

theorem skipBreak_carriageReturn {c : Cursor} {rest : List Char} (h : c.rest = '\r' :: rest)
    (noNewline : rest.head? ≠ some '\n') : c.skipBreak.rest = rest := by
  cases rest with
  | nil => simp [Cursor.skipBreak, Cursor.takeBreak, h, isBreak, Cursor.nextLine]
  | cons d rest =>
    have other : d ≠ '\n' := by simpa using noNewline
    simp [Cursor.skipBreak, Cursor.takeBreak, h, isBreak, Cursor.nextLine, other]

theorem skipBreak_both {c : Cursor} {rest : List Char} (h : c.rest = '\r' :: '\n' :: rest) :
    c.skipBreak.rest = rest := by
  simp [Cursor.skipBreak, Cursor.takeBreak, h, Cursor.nextLine]

/-- Behind the end of a line, fewer blanks are left. -/
theorem exists_skipBreak {b : Blank} (isBreak : b.isBreak) (g : Layout) {text : List Char}
    (solid : ∀ d ∈ text.head?, isSolid d) (c : Cursor) (h : c.rest = b.char :: (g.chars ++ text)) :
    ∃ g' : Layout, c.skipBreak.rest = g'.chars ++ text ∧ g'.length ≤ g.length ∧
      ∀ b ∈ g', b ∈ g := by
  have kept (hb : c.skipBreak.rest = g.chars ++ text) :
      ∃ g' : Layout, c.skipBreak.rest = g'.chars ++ text ∧ g'.length ≤ g.length ∧
        ∀ b ∈ g', b ∈ g :=
    ⟨g, hb, Nat.le_refl _, fun b hb => hb⟩
  cases b with
  | space => cases isBreak
  | tab => cases isBreak
  | newline => exact kept (skipBreak_newline h)
  | carriageReturn =>
    cases g with
    | nil =>
      refine kept (skipBreak_carriageReturn h fun newline => ?_)
      exact absurd (solid '\n' newline) (by decide)
    | cons b g =>
      cases b with
      | newline =>
        exact ⟨g, skipBreak_both h, Nat.le_succ _, fun b hb => List.mem_cons_of_mem _ hb⟩
      | space | tab | carriageReturn =>
        exact kept (skipBreak_carriageReturn h (by simp [Layout.chars, Blank.char]))

/-! ## Quoted scalars -/

namespace Quoted

theorem hexDigit?_eq (c : Char) : hexDigit? c = Json.hexDigit? c := by
  have digit : c.isDigit ↔ '0' ≤ c ∧ c ≤ '9' := by
    simp [Char.isDigit, Char.le_def]
  by_cases h : '0' ≤ c ∧ c ≤ '9' <;> simp [hexDigit?, Json.hexDigit?, digit, h]

theorem hexDigit_bounds (a : HexDigit) :
    a.value < 16 ∧ 48 ≤ a.char.toNat ∧ a.char.toNat ≤ 102 := by
  have spells := a.spells
  simp only [Json.hexDigit?, Char.le_def, UInt32.le_iff_toNat_le] at spells
  have toNat : a.char.toNat = a.char.val.toNat := rfl
  split at spells
  · next h =>
    have lower : 48 ≤ a.char.val.toNat := h.1
    have upper : a.char.val.toNat ≤ 57 := h.2
    injection spells with spells
    omega
  · split at spells
    · next h =>
      have lower : 97 ≤ a.char.val.toNat := h.1
      have upper : a.char.val.toNat ≤ 102 := h.2
      injection spells with spells
      omega
    · split at spells
      · next h =>
        have lower : 65 ≤ a.char.val.toNat := h.1
        have upper : a.char.val.toNat ≤ 70 := h.2
        injection spells with spells
        omega
      · cases spells

theorem codePoint_digits {a b c d : HexDigit}
    (h : Piece.code a b c d < 0xD800 ∨ 0xDFFF < Piece.code a b c d) :
    codePoint [a.char, b.char, c.char, d.char] = .ok (Char.ofNat (Piece.code a b c d)) := by
  have value : hexValue? [a.char, b.char, c.char, d.char] = some (Piece.code a b c d) := by
    simp [hexValue?, hexDigit?_eq, a.spells, b.spells, c.spells, d.spells, Piece.code]
  have bound : Piece.code a b c d < 0x10000 := by
    have ha := (hexDigit_bounds a).1
    have hb := (hexDigit_bounds b).1
    have hc := (hexDigit_bounds c).1
    have hd := (hexDigit_bounds d).1
    rw [Piece.code]
    omega
  rw [codePoint, value]
  refine if_neg ?_
  simp only [Bool.or_eq_true, Bool.and_eq_true, decide_eq_true_eq]
  omega

theorem escaped?_of_escapedLetter? {l c : Char} (h : Json.Reader.escapedLetter? l = some c) :
    escaped? l = some c ∧ isBreak l = false ∧ l ≠ 'x' ∧ l ≠ 'u' ∧ l ≠ 'U' := by
  unfold Json.Reader.escapedLetter? at h
  split at h <;> cases h <;> decide

theorem doubleRun_piece {piece : Piece} (portable : piece.isPortable) (solid : piece.chars ≠ [' '])
    (rest : List Char) :
    doubleRun (piece.chars ++ rest) = cons piece.char (doubleRun rest) := by
  cases piece with
  | raw c plain =>
    obtain ⟨control, quote, backslash⟩ := plain
    have space : c ≠ ' ' := by rintro rfl; exact solid rfl
    have tab : c ≠ '\t' := by rintro rfl; exact absurd control (by decide)
    simp only [Piece.isPortable, Bool.and_eq_true, Bool.not_eq_true'] at portable
    have hc : isSolid c = true := by simp [isSolid, isBlank, space, tab, portable.2]
    simp [Piece.chars, Piece.char, doubleRun, backslash, quote, hc]
  | letter l c spells =>
    obtain ⟨hescaped, hbreak, hx, hu, hU⟩ := escaped?_of_escapedLetter? spells
    simp [Piece.chars, Piece.char, doubleRun, hbreak, hescaped, hx, hu, hU]
  | number a b c d =>
    have scalar : Piece.code a b c d < 0xD800 ∨ 0xDFFF < Piece.code a b c d := by
      simpa [Piece.isPortable] using portable
    simp [Piece.chars, Piece.char, doubleRun, codePoint_digits scalar]
    rfl

theorem doubleRun_pieces {pieces : List Piece} (portable : ∀ p ∈ pieces, p.isPortable)
    (solid : ∀ p ∈ pieces, p.chars ≠ [' ']) {d : Char} (hd : d = ' ' ∨ d = '"')
    (rest : List Char) :
    doubleRun (pieces.flatMap Piece.chars ++ d :: rest) =
      .ok (pieces.map Piece.char, d :: rest) := by
  induction pieces with
  | nil => rcases hd with rfl | rfl <;> simp [doubleRun, isSolid, isBlank]
  | cons piece pieces ih =>
    obtain ⟨portable, laterPortable⟩ := List.forall_mem_cons.1 portable
    obtain ⟨solid, laterSolid⟩ := List.forall_mem_cons.1 solid
    rw [List.flatMap_cons, List.append_assoc, doubleRun_piece portable solid,
      ih laterPortable laterSolid]
    rfl

theorem char_eq_space {piece : Piece} (h : piece.chars = [' ']) : piece.char = ' ' := by
  cases piece with
  | raw c plain => exact (List.cons.inj h).1
  | letter l c spells => cases h
  | number a b c d => cases h

/-- Spaces inside quotes stand for themselves. -/
theorem read_spaces {spaces : List Piece} (h : ∀ p ∈ spaces, p.chars = [' ']) {d : Char}
    (solid : isSolid d) {rest : List Char} (blanks : List Char) {c : Cursor}
    (hc : c.rest = spaces.flatMap Piece.chars ++ d :: rest) {fuel : Nat}
    (enough : spaces.length < fuel) :
    Gap.read 0 fuel ⟨blanks, false, [], []⟩ c =
      .ok (⟨blanks ++ spaces.map Piece.char, false, [], []⟩, c.skip spaces.length) := by
  induction spaces generalizing blanks c fuel with
  | nil =>
    obtain _ | fuel := fuel
    · exact absurd enough (Nat.lt_irrefl _)
    rw [List.flatMap_nil, List.nil_append] at hc
    simp only [isSolid, Bool.and_eq_true, Bool.not_eq_true'] at solid
    simp [Gap.read, hc, solid.1, solid.2, skip_zero]
  | cons space spaces ih =>
    obtain _ | fuel := fuel
    · exact absurd enough (Nat.not_lt_zero _)
    obtain ⟨hspace, hspaces⟩ := List.forall_mem_cons.1 h
    rw [List.flatMap_cons, hspace] at hc
    have hrest : (c.skip 1).rest = spaces.flatMap Piece.chars ++ d :: rest := by
      rw [Cursor.skip, hc]
      rfl
    have taken := ih hspaces (blanks ++ [' ']) hrest (Nat.lt_of_succ_lt_succ enough)
    have blank : isBlank ' ' = true := rfl
    simp [Gap.read, hc, blank, taken, char_eq_space hspace, skip_skip, Nat.add_comm]

theorem length_flatMap_spaces {spaces : List Piece} (h : ∀ p ∈ spaces, p.chars = [' ']) :
    (spaces.flatMap Piece.chars).length = spaces.length := by
  induction spaces with
  | nil => rfl
  | cons space spaces ih =>
    obtain ⟨hspace, hspaces⟩ := List.forall_mem_cons.1 h
    simp [hspace, ih hspaces]

theorem skipTo_eq_skip {c : Cursor} {taken rest : List Char} (h : c.rest = taken ++ rest) :
    c.skipTo rest = c.skip taken.length := by
  simp [Cursor.skipTo, Cursor.skip, h]

/-- Reading on up to the first character that may end a run. -/
theorem readOn_succ {c : Cursor} {taken rest : List Char} {d : Char} (column : c.column ≠ 0)
    (hc : c.rest ≠ []) (h : doubleRun c.rest = .ok (taken, d :: rest)) (hd : d ≠ '\\') (fuel : Nat)
    (text : List Char) :
    readOn false (fuel + 1) text c =
      if d = '"' then .ok (text ++ taken, (c.skipTo (d :: rest)).skip 1)
      else Gap.read 0 (rest.length + 2) .empty (c.skipTo (d :: rest)) >>= fun gap =>
        readOn false fuel (text ++ taken ++ gap.1.text) gap.2 := by
  have marker : c.isAtMarker = false := by simp [Cursor.isAtMarker, column]
  have nonempty : c.rest.isEmpty = false := by simp [hc]
  have ahead : (c.skipTo (d :: rest)).rest = d :: rest := rfl
  by_cases quote : d = '"'
  · subst quote
    simp [readOn, marker, nonempty, h, ahead, ok_bind, pure, Except.pure]
  · simp [readOn, marker, nonempty, h, ahead, ok_bind, quote, hd, pure, Except.pure]

/-- What is left of a list where a property first fails. -/
theorem exists_span (p : Piece → Bool) (pieces : List Piece) :
    ∃ run tail, pieces = run ++ tail ∧ (∀ x ∈ run, p x) ∧ ∀ x ∈ tail.head?, p x = false := by
  refine ⟨pieces.takeWhile p, pieces.dropWhile p, List.takeWhile_append_dropWhile.symm,
    List.all_eq_true.1 List.all_takeWhile, fun x hx => ?_⟩
  simpa [Option.mem_def.1 hx] using List.head?_dropWhile_not p pieces

/-- Behind spaces, a piece that is none begins, or the string ends. -/
theorem exists_solid {pieces : List Piece} (portable : ∀ p ∈ pieces, p.isPortable)
    (h : ∀ p ∈ pieces.head?, p.chars ≠ [' ']) (rest : List Char) :
    ∃ d ds, pieces.flatMap Piece.chars ++ '"' :: rest = d :: ds ∧ isSolid d := by
  cases pieces with
  | nil => exact ⟨'"', rest, rfl, rfl⟩
  | cons piece pieces =>
    have solid : piece.chars ≠ [' '] := h piece rfl
    have portable := portable piece List.mem_cons_self
    cases piece with
    | raw c plain =>
      refine ⟨c, _, rfl, ?_⟩
      have space : c ≠ ' ' := by rintro rfl; exact solid rfl
      have tab : c ≠ '\t' := by rintro rfl; exact absurd plain.1 (by decide)
      simp only [Piece.isPortable, Bool.and_eq_true, Bool.not_eq_true'] at portable
      simp [isSolid, isBlank, space, tab, portable.2]
    | letter l c spells => exact ⟨'\\', _, rfl, rfl⟩
    | number a b c d => exact ⟨'\\', _, rfl, rfl⟩

/-- Reading on over a run and the spaces behind it. -/
theorem readOn_run {run spaces : List Piece} (portable : ∀ p ∈ run, p.isPortable)
    (hrun : ∀ p ∈ run, p.chars ≠ [' ']) (hspaces : ∀ p ∈ spaces, p.chars = [' '])
    (some : spaces ≠ []) {d : Char} (solid : isSolid d) {ds : List Char} {c : Cursor}
    (hc : c.rest = (run ++ spaces).flatMap Piece.chars ++ d :: ds) (column : c.column ≠ 0)
    (fuel : Nat) (text : List Char) :
    readOn false (fuel + 1) text c =
      readOn false fuel (text ++ (run ++ spaces).map Piece.char)
        (c.skip ((run ++ spaces).flatMap Piece.chars).length) := by
  rw [List.flatMap_append, List.append_assoc] at hc
  obtain ⟨rest, hrest⟩ : ∃ rest, spaces.flatMap Piece.chars ++ d :: ds = ' ' :: rest := by
    cases spaces with
    | nil => exact absurd rfl some
    | cons space spaces =>
      exact ⟨spaces.flatMap Piece.chars ++ d :: ds, by
        rw [List.flatMap_cons, hspaces space List.mem_cons_self]
        rfl⟩
  have length := length_flatMap_spaces hspaces
  have taken := doubleRun_pieces portable hrun (.inl rfl) rest
  rw [hrest] at hc
  rw [← hc] at taken
  have behind : (c.skip (run.flatMap Piece.chars).length).rest =
      spaces.flatMap Piece.chars ++ d :: ds := by
    rw [Cursor.skip, hc, hrest, List.drop_left]
  have enough : spaces.length < rest.length + 2 := by
    have := congrArg List.length hrest
    simp only [List.length_append, List.length_cons] at this
    omega
  have gap := read_spaces hspaces solid [] behind enough
  have empty : Gap.empty = ⟨[], false, [], []⟩ := rfl
  rw [readOn_succ column (by simp [hc]) taken (by decide), if_neg (by decide), skipTo_eq_skip hc,
    empty, gap, ok_bind, skip_skip, List.flatMap_append, List.length_append, length]
  simp [Gap.text]

/-- Between quotes, pieces say what they stand for. -/
theorem readOn_pieces {pieces : List Piece} (portable : ∀ p ∈ pieces, p.isPortable)
    {rest : List Char} (text : List Char) {c : Cursor}
    (hc : c.rest = pieces.flatMap Piece.chars ++ '"' :: rest) (column : c.column ≠ 0) {fuel : Nat}
    (enough : pieces.length < fuel) :
    readOn false fuel text c =
      .ok (text ++ pieces.map Piece.char, c.skip ((pieces.flatMap Piece.chars).length + 1)) := by
  induction hn : pieces.length using Nat.strongRecOn generalizing pieces text c fuel with
  | ind n ih =>
    subst hn
    obtain _ | fuel := fuel
    · exact absurd enough (Nat.not_lt_zero _)
    obtain ⟨run, tail, rfl, hrun, htail⟩ := exists_span (·.chars != [' ']) pieces
    have hrun : ∀ p ∈ run, p.chars ≠ [' '] := fun p hp => by simpa using hrun p hp
    have portableRun : ∀ p ∈ run, p.isPortable := fun p hp => portable p (by simp [hp])
    by_cases ends : tail = []
    · subst ends
      rw [List.append_nil] at hc
      have taken := doubleRun_pieces portableRun hrun (.inr rfl) rest
      rw [← hc] at taken
      rw [readOn_succ column (by simp [hc]) taken (by decide), if_pos rfl, skipTo_eq_skip hc,
        skip_skip, List.append_nil]
    · obtain ⟨spaces, more, rfl, hspaces, hmore⟩ := exists_span (·.chars == [' ']) tail
      have hspaces : ∀ p ∈ spaces, p.chars = [' '] := fun p hp => by simpa using hspaces p hp
      have hmore : ∀ p ∈ more.head?, p.chars ≠ [' '] := fun p hp => by simpa using hmore p hp
      -- Where the run ends there is a space, unless nothing is left.
      have some : spaces ≠ [] := by
        rintro rfl
        obtain ⟨space, more, rfl⟩ := List.exists_cons_of_ne_nil ends
        exact hmore space rfl (by simpa using htail space rfl)
      have portableMore : ∀ p ∈ more, p.isPortable := fun p hp => portable p (by simp [hp])
      obtain ⟨d, ds, hd, solid⟩ := exists_solid portableMore hmore rest
      rw [← List.append_assoc, List.flatMap_append, List.append_assoc, hd] at hc
      have left : (c.skip ((run ++ spaces).flatMap Piece.chars).length).rest =
          more.flatMap Piece.chars ++ '"' :: rest := by
        rw [Cursor.skip, hc, hd, List.drop_left]
      have shorter : more.length < (run ++ (spaces ++ more)).length := by
        have := List.length_pos_of_ne_nil some
        simp only [List.length_append]
        omega
      rw [readOn_run portableRun hrun hspaces some solid hc column,
        ih more.length shorter portableMore _ left (by simp [Cursor.skip, column]) (by omega) rfl,
        skip_skip, List.append_assoc text, ← List.map_append, ← Nat.add_assoc, ← List.length_append,
        ← List.flatMap_append, List.append_assoc run]

/-- A string of JSON is read as what it says. -/
theorem read_quoted {pieces : List Piece} (portable : ∀ p ∈ pieces, p.isPortable) {c : Cursor}
    {rest : List Char} (h : c.rest = quoted pieces ++ rest) :
    read false c = .ok (pieces.map Piece.char, c.skip (quoted pieces).length) := by
  have inside : (c.skip 1).rest = pieces.flatMap Piece.chars ++ '"' :: rest := by
    simp [Cursor.skip, h, quoted]
  have enough : pieces.length < c.rest.length + 1 := by
    have := Json.Reader.length_le_length_flatMap pieces fun piece _ =>
      Json.Reader.length_piece_pos piece
    simp only [h, quoted, List.length_append, List.length_cons]
    omega
  rw [read, readOn_pieces portable [] inside (Nat.succ_ne_zero _) enough, skip_skip,
    List.nil_append]
  simp [quoted, Nat.add_comm]

end Quoted

/-! ## Plain scalars -/

/-- Any blanks and ends of lines are a gap. -/
theorem exists_readGap (g : Layout) {text : List Char} (solid : ∀ d ∈ text.head?, isSolid d)
    (gap : Gap) {c : Cursor} (h : c.rest = g.chars ++ text) {fuel : Nat}
    (enough : g.length < fuel) :
    ∃ gap' c', gap.read 0 fuel c = .ok (gap', c') ∧ c'.rest = text := by
  induction hn : g.length using Nat.strongRecOn generalizing g gap c fuel with
  | ind n ih =>
    subst hn
    obtain _ | fuel := fuel
    · exact absurd enough (Nat.not_lt_zero _)
    cases g with
    | nil =>
      refine ⟨gap, c, ?_, h⟩
      cases text with
      | nil => simp [Gap.read, h, Layout.chars]
      | cons d text =>
        have hd := solid d rfl
        simp only [isSolid, Bool.and_eq_true, Bool.not_eq_true'] at hd
        simp [Gap.read, h, Layout.chars, hd.1, hd.2]
    | cons b g =>
      rw [List.length_cons] at enough ih
      by_cases hb : b.isBreak
      · obtain ⟨g', hg', shorter, -⟩ := exists_skipBreak hb g solid c h
        obtain ⟨gap', c', hgap, hrest⟩ := ih g'.length (by omega) g' (gap.addBreak c.takeBreak.1)
          hg' (show g'.length < fuel by omega) rfl
        refine ⟨gap', c', ?_, hrest⟩
        have blank : isBlank b.char = false := by cases b <;> first | rfl | cases hb
        have ends : isBreak b.char = true := by cases b <;> first | rfl | cases hb
        rw [Gap.read, h]
        simpa [Layout.chars, blank, ends, Cursor.skipBreak] using hgap
      · have blank : isBlank b.char = true := by cases b <;> first | rfl | exact absurd rfl hb
        have behind : (c.skip 1).rest = Layout.chars g ++ text := by
          rw [Cursor.skip, h]
          rfl
        have later (gap : Gap) := ih g.length (Nat.lt_succ_self _) g gap behind
          (show g.length < fuel by omega) rfl
        rw [Gap.read, h]
        by_cases broken : gap.broken
        · simpa [Layout.chars, blank, broken] using later gap
        · simpa [Layout.chars, blank, broken] using
            later { gap with blanks := gap.blanks ++ [b.char] }

namespace Plain

/-- A character that stands for itself anywhere in a plain scalar. -/
def isPart (c : Char) : Bool :=
  isSolid c && c != ':' && !isFlowEnd c

theorem ne_colon_of_isFlowEnd {d : Char} (h : isFlowEnd d) : d ≠ ':' := by
  rintro rfl
  cases h

/-- A run ends at a blank and at a flow indicator. -/
theorem run_eq_nil {rest : List Char} (stop : ∀ d ∈ rest.head?, isSolid d = false ∨ isFlowEnd d) :
    run true rest = .ok [] := by
  cases rest with
  | nil => rfl
  | cons d rest =>
    rcases stop d rfl with blank | flow
    · simp [run, blank]
    · simp [run, flow, ne_colon_of_isFlowEnd flow]

theorem run_word {word rest : List Char} (h : ∀ c ∈ word, isPart c)
    (stop : ∀ d ∈ rest.head?, isSolid d = false ∨ isFlowEnd d) :
    run true (word ++ rest) = .ok word := by
  induction word with
  | nil => exact run_eq_nil stop
  | cons c word ih =>
    obtain ⟨part, parts⟩ := List.forall_mem_cons.1 h
    simp only [isPart, Bool.and_eq_true, bne_iff_ne, Bool.not_eq_true'] at part
    simp [run, part.1.1, part.1.2, part.2, ih parts]

theorem isSolid_of_isFlowEnd {d : Char} (h : isFlowEnd d) : isSolid d := by
  simp only [isFlowEnd, Bool.or_eq_true, beq_iff_eq] at h
  rcases h with (((rfl | rfl) | rfl) | rfl) | rfl <;> rfl

/-- At a flow indicator nothing more is read. -/
theorem readOn_flowEnd {d : Char} (flow : isFlowEnd d) {rest : List Char} {c : Cursor}
    (hc : c.rest = d :: rest) (text : List Char) (gap : Gap) (fuel : Nat) :
    readOn true 0 fuel text gap c = .ok (text, gap.broken, c) := by
  have marker : c.isAtMarker = false := by
    simp only [isFlowEnd, Bool.or_eq_true, beq_iff_eq] at flow
    rcases flow with (((rfl | rfl) | rfl) | rfl) | rfl <;> simp [Cursor.isAtMarker, hc, isMarker]
  have comment : d ≠ '#' := by rintro rfl; cases flow
  have taken : run true (d :: rest) = .ok [] := run_eq_nil fun e he => by
    cases he
    exact .inr flow
  cases fuel with
  | zero => rfl
  | succ fuel =>
    simp [readOn, marker, hc, comment, taken, ok_bind, skip_zero, isSolid_of_isFlowEnd flow, pure,
      Except.pure]

/-- In flow style, a word goes on over the blanks behind it up to a flow indicator. -/
theorem exists_read {word : List Char} (h : ∀ c ∈ word, isPart c) (nonempty : word ≠ [])
    (comment : word.head? ≠ some '#') (g : Layout) {d : Char} (flow : isFlowEnd d)
    {rest : List Char} {c : Cursor} (hc : c.rest = word ++ (g.chars ++ d :: rest))
    (marker : isMarker c.rest = false) :
    ∃ broken c', read true 0 c = .ok (word, broken, c') ∧ c'.rest = d :: rest := by
  have solid : isSolid d := isSolid_of_isFlowEnd flow
  have stop : ∀ e ∈ (g.chars ++ d :: rest).head?, isSolid e = false ∨ isFlowEnd e := by
    cases g with
    | nil =>
      rintro e he
      cases he
      exact .inr flow
    | cons b g =>
      rintro e he
      cases he
      exact .inl (by cases b <;> rfl)
  have taken : run true c.rest = .ok word := hc ▸ run_word h stop
  have atMarker : c.isAtMarker = false := by simp [Cursor.isAtMarker, marker]
  have noComment : (c.rest.head? == some '#') = false := by
    obtain ⟨w, word, rfl⟩ := List.exists_cons_of_ne_nil nonempty
    simpa [hc] using comment
  have behind : (c.skip word.length).rest = g.chars ++ d :: rest := by
    rw [Cursor.skip, hc, List.drop_left]
  have gapText : Gap.empty.text = [] := rfl
  cases g with
  | nil =>
    have ahead : (c.skip word.length).rest.head?.any isSolid = true := by
      simp [behind, Layout.chars, solid]
    refine ⟨false, c.skip word.length, ?_, behind⟩
    simp [read, readOn, atMarker, noComment, taken, ok_bind, gapText, ahead, pure, Except.pure]
    rfl
  | cons b g =>
    have solids : ∀ e ∈ (d :: rest).head?, isSolid e := by
      rintro e he
      cases he
      exact solid
    have enough : (b :: g).length < (c.skip word.length).rest.length + 1 := by
      have length := congrArg List.length behind
      simp only [Layout.chars, List.length_append, List.length_map, List.length_cons] at length ⊢
      omega
    obtain ⟨gap, c', hgap, hrest⟩ := exists_readGap (b :: g) solids Gap.empty behind enough
    have blank : isSolid b.char = false := by cases b <;> rfl
    have ahead : (c.skip word.length).rest.head?.any isSolid = false := by
      simp [behind, Layout.chars, blank]
    have more : (c.skip word.length).rest ≠ [] := by simp [behind, Layout.chars]
    have later := readOn_flowEnd flow hrest word gap
    refine ⟨gap.broken, c', ?_, hrest⟩
    simp [read, readOn, atMarker, noComment, taken, ok_bind, nonempty, gapText, ahead, more, hgap,
      later, pure, Except.pure]

end Plain

end ScenarioSuite.Yaml
