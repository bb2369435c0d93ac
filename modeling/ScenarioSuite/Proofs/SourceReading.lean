import ScenarioSuite.Proofs.JsonSource
import ScenarioSuite.Proofs.JsonText
import ScenarioSuite.Proofs.Outcome

/-!
# Reading sources as JSON

A reader may refuse a source, because a number is too great or containers nest too deep, but when it
takes one it takes all of its text and gives its value. What a reader gives if it succeeds is
enough here, so the faults are left open.

## Main definitions

* `Json.Reader.Yields`: what a reader gives and leaves if it succeeds.
* `Json.Reader.Stops`: what can stand behind a number.
* `Json.Source.Opens`: the first character of a source.
* `Json.Source.ReadBy`: what a reader gives of a source, whatever stands around it.

## Main statements

* `Json.Reader.yields_array`, `Json.Reader.yields_object`: the inside of a container.
* `Json.Source.readBy_value`: a source is read as its value.
-/

namespace ScenarioSuite.Json

open Text.Utf8 (Symbol)

namespace Reader

variable {α β : Type} {input mid rest : List Symbol} {a : α}

/-- If the reader succeeds on `input`, then `post` holds of what it gives and of what it leaves. -/
def Yields (r : Reader α) (input : List Symbol) (post : α → List Symbol → Prop) : Prop :=
  ∀ p a c, r ⟨input, p⟩ = .ok a c → post a c.rest

namespace Yields

variable {r : Reader α} {f : α → Reader β} {post : α → List Symbol → Prop}
  {post' : β → List Symbol → Prop}

protected theorem pure (h : post a input) : Yields (pure a) input post := by
  intro p b c hb
  cases hb
  exact h

protected theorem bind (hr : Yields r input post)
    (hf : ∀ a mid, post a mid → Yields (f a) mid post') : Yields (r >>= f) input post' := by
  intro p b c h
  change EStateM.bind r f _ = _ at h
  rw [EStateM.bind] at h
  split at h
  · next a s ha => exact hf a s.rest (hr p a s ha) s.position b c h
  · cases h

/-- What a step gives does not matter if what follows it is the same in any case. -/
theorem bind_of_forall (hf : ∀ a mid, Yields (f a) mid post') : Yields (r >>= f) input post' := by
  have anything : Yields r input fun _ _ => True := fun _ _ _ _ => trivial
  exact anything.bind fun a mid _ => hf a mid

protected theorem map {g : α → β} (hr : Yields r input fun a mid => post' (g a) mid) :
    Yields (g <$> r) input post' := by
  intro p b c h
  change EStateM.map g r _ = _ at h
  rw [EStateM.map] at h
  split at h
  · next a s ha =>
    cases h
    exact hr p a c ha
  · cases h

theorem mono {weaker : α → List Symbol → Prop} (hr : Yields r input post)
    (h : ∀ a mid, post a mid → weaker a mid) : Yields r input weaker :=
  fun p a c ha => h a c.rest (hr p a c ha)

protected theorem fail (cause : Cause) : Yields (fail cause) input post := by
  intro p a c h
  cases h

protected theorem failAhead (cause : Cause) : Yields (failAhead cause) input post := by
  intro p a c h
  cases h

protected theorem failBehind (count : Nat) (cause : Cause) :
    Yields (failBehind count cause) input post := by
  intro p a c h
  cases h

protected theorem mismatch (m : Schema.Mismatch) : Yields (mismatch m) input post := by
  intro p a c h
  cases h

protected theorem located (hr : Yields r input post) : Yields (located r) input post := by
  intro p a c h
  rw [Reader.located] at h
  split at h
  · next b s hb =>
    cases h
    exact hr p a c hb
  · cases h

protected theorem enclosed {close : Reader Unit} {after : α → List Symbol → Prop}
    (hr : Yields r input post) (hc : ∀ a mid, post a mid → Yields close mid fun _ => after a) :
    Yields (enclosed r close) input after := by
  intro p a c h
  rw [Reader.enclosed] at h
  split at h
  · next b s hb =>
    change EStateM.seqRight close (fun _ => pure b) _ = _ at h
    rw [EStateM.seqRight] at h
    split at h
    · next u s' hu =>
      cases h
      exact hc a s.rest (hr p a s hb) s.position u c hu
    · cases h
  · split at h <;> cases h

end Yields

theorem Takes.yields {r : Reader α} {post : α → List Symbol → Prop} (hr : Takes r input a mid)
    (h : post a mid) : Yields r input post := by
  intro p b c hb
  obtain ⟨q, hq⟩ := hr p
  rw [hq] at hb
  cases hb
  exact h

theorem Takes.bind_yields {r : Reader α} {f : α → Reader β} {post : β → List Symbol → Prop}
    (hr : Takes r input a mid) (hf : Yields (f a) mid post) : Yields (r >>= f) input post := by
  have taken : Yields r input fun b left => b = a ∧ left = mid := hr.yields ⟨rfl, rfl⟩
  refine taken.bind ?_
  rintro b left ⟨rfl, rfl⟩
  exact hf

/-! ## Blanks -/

theorem isSpace_char (b : Blank) : isSpace b.char := by
  cases b <;> rfl

/-- Blanks ahead are passed over. -/
theorem takes_peekItem (g : Layout) {c : Char} (h : isSpace c = false) (rest : List Symbol) :
    Takes peekItem (g.chars.map .char ++ .char c :: rest) (some (.char c)) (.char c :: rest) := by
  have drop (p : Position) : ∃ q,
      Cursor.dropSpaces ⟨g.chars.map .char ++ .char c :: rest, p⟩ = ⟨.char c :: rest, q⟩ := by
    induction g generalizing p with
    | nil => exact ⟨p, by simp [Layout.chars, Cursor.dropSpaces, Cursor.dropSpaces.go, h]⟩
    | cons b g ih =>
      obtain ⟨q, hq⟩ := ih (p.after (.char b.char))
      refine ⟨q, ?_⟩
      simpa [Layout.chars, Cursor.dropSpaces, Cursor.dropSpaces.go, isSpace_char] using hq
  intro p
  obtain ⟨q, hq⟩ := drop p
  exact ⟨q, by rw [peekItem, hq]; rfl⟩

/-! ## Strings -/

theorem takes_hexDigits_code (a b c d : HexDigit) (rest : List Symbol) :
    Takes hexDigits ([a.char, b.char, c.char, d.char].map .char ++ rest) (Piece.code a b c d)
      rest := by
  intro p
  refine ⟨⟨p.line, p.column + 4⟩, ?_⟩
  simp [hexDigits, a.spells, b.spells, c.spells, d.spells, Piece.code]

theorem takes_escapedCodePoint_code {a b c d : HexDigit}
    (h : Piece.code a b c d < 0xD800 ∨ 0xDFFF < Piece.code a b c d) (rest : List Symbol) :
    Takes escapedCodePoint ([a.char, b.char, c.char, d.char].map .char ++ rest)
      (Char.ofNat (Piece.code a b c d)) rest := by
  refine (takes_hexDigits_code a b c d rest).bind ?_
  rw [if_neg (by omega), if_pos (by omega)]
  exact .pure _ rest

/-- A piece joins the characters gathered. -/
theorem takes_stringChars_piece {piece : Piece} (portable : piece.isPortable) {n : Nat}
    {gathered : List Char} {s : String}
    (h : Takes (stringChars n (piece.char :: gathered) none) input s rest) :
    Takes (stringChars (n + 1) gathered none) (piece.chars.map .char ++ input) s rest := by
  cases piece with
  | raw c plain =>
    obtain ⟨control, quote, backslash⟩ := plain
    refine (Takes.peek _).bind ?_
    simp only [Piece.chars, List.map_cons, List.map_nil, List.cons_append, List.nil_append,
      List.head?_cons]
    rw [if_neg (by omega)]
    exact (Takes.skip _ _).bind h
  | letter l c spells =>
    exact (Takes.peek _).bind
      ((Takes.skip _ _).bind ((takes_escaped_letter spells input).bind h))
  | number a b c d =>
    have scalar : Piece.code a b c d < 0xD800 ∨ 0xDFFF < Piece.code a b c d := by
      simpa [Piece.isPortable] using portable
    have taken : Takes escaped (['u', a.char, b.char, c.char, d.char].map .char ++ input)
        (Char.ofNat (Piece.code a b c d)) input :=
      (Takes.peek _).bind ((Takes.skip _ _).bind (takes_escapedCodePoint_code scalar input))
    exact (Takes.peek _).bind ((Takes.skip _ _).bind (taken.bind h))

theorem takes_stringChars_pieces {pieces : List Piece} (portable : ∀ p ∈ pieces, p.isPortable)
    {n : Nat} (hn : pieces.length < n) (gathered : List Char) (rest : List Symbol) :
    Takes (stringChars n gathered none)
      ((pieces.flatMap Piece.chars).map .char ++ .char '"' :: rest)
      (String.ofList (gathered.reverse ++ pieces.map Piece.char)) rest := by
  induction pieces generalizing gathered n with
  | nil =>
    obtain _ | n := n
    · exact absurd hn (Nat.lt_irrefl _)
    · rw [List.map_nil, List.append_nil]
      exact (Takes.peek _).bind ((Takes.skip _ _).bind (.pure _ rest))
  | cons piece pieces ih =>
    obtain _ | n := n
    · exact absurd hn (Nat.not_lt_zero _)
    · have later := ih (fun p hp => portable p (List.mem_cons_of_mem piece hp))
        (Nat.lt_of_succ_lt_succ hn) (piece.char :: gathered)
      rw [List.reverse_cons, List.append_assoc] at later
      rw [List.flatMap_cons, List.map_append, List.append_assoc]
      exact takes_stringChars_piece (portable piece List.mem_cons_self) later

theorem length_piece_pos (piece : Piece) : 0 < piece.chars.length := by
  cases piece <;> exact Nat.zero_lt_succ _

/-- A string is read as what it says. -/
theorem takes_string_pieces {pieces : List Piece} (portable : pieces.all Piece.isPortable)
    (rest : List Symbol) :
    Takes string ((pieces.flatMap Piece.chars).map .char ++ .char '"' :: rest) (spelled pieces)
      rest := by
  have length := length_le_length_flatMap pieces fun piece _ => length_piece_pos piece
  have enough : pieces.length <
      ((pieces.flatMap Piece.chars).map Symbol.char ++ .char '"' :: rest).length + 1 := by
    rw [List.length_append, List.length_map]
    omega
  exact (Takes.fuel _).bind
    (takes_stringChars_pieces (List.all_eq_true.1 portable) enough [] rest)

/-! ## Numbers -/

/-- A character that a number may go on with. -/
def isNumberPart (c : Char) : Bool :=
  c.isDigit || c == '.' || c == 'e' || c == 'E' || c == '+' || c == '-'

/-- No number goes on here. -/
def Stops (rest : List Symbol) : Prop :=
  ∀ c, rest.head? = some (.char c) → isNumberPart c = false

theorem digit?_eq_none {s : Symbol} (h : ∀ c, s = .char c → c.isDigit = false) :
    digit? s = none := by
  cases s with
  | stray => rfl
  | char c =>
    refine if_neg fun hc => ?_
    have := (Char.isDigit_iff_toNat (c := c)).2 hc
    simp_all

theorem Stops.digit?_eq_none (stops : Stops rest) : ∀ s ∈ rest.head?, digit? s = none := by
  intro s hs
  refine Reader.digit?_eq_none fun c hc => ?_
  have := stops c (by simpa [hc] using hs)
  simp_all [isNumberPart]

theorem Stops.ne (stops : Stops rest) {l : Char} (h : isNumberPart l = true) :
    rest.head? ≠ some (.char l) := by
  intro hl
  have := stops l hl
  simp_all

end Reader

namespace Literal

open Reader

variable {rest : List Symbol}

/-- No digit stands where a power of ten may. -/
theorem digit?_exponent (e : Option Exponent) (stops : Stops rest) :
    ∀ s ∈ ((exponentChars e).map Symbol.char ++ rest).head?, digit? s = none := by
  cases e with
  | none => exact stops.digit?_eq_none
  | some e =>
    rintro s hs
    obtain ⟨mark, isMark, sign, digits⟩ := e
    rcases isMark with rfl | rfl <;> cases hs <;> rfl

/-- No digit stands where a fraction or a power of ten may. -/
theorem digit?_fraction (ds : Option Digits) (e : Option Exponent) (stops : Stops rest) :
    ∀ s ∈ ((fractionChars ds).map Symbol.char ++ ((exponentChars e).map Symbol.char ++ rest)).head?,
      digit? s = none := by
  cases ds with
  | none => exact digit?_exponent e stops
  | some ds =>
    rintro s hs
    cases hs
    rfl

theorem yields_fractionDigits (cause : Cause) (ds : Option Digits) (e : Option Exponent)
    (stops : Stops rest) :
    Yields (fractionDigits cause)
      ((fractionChars ds).map .char ++ ((exponentChars e).map .char ++ rest))
      fun f mid => f = ds.map Digits.values ∧ mid = (exponentChars e).map .char ++ rest := by
  refine (Takes.peek _).bind_yields ?_
  cases ds with
  | none =>
    have point : ((exponentChars e).map Symbol.char ++ rest).head? ≠ some (.char '.') := by
      cases e with
      | none => exact stops.ne rfl
      | some e =>
        obtain ⟨mark, isMark, sign, digits⟩ := e
        rcases isMark with rfl | rfl <;> simp [exponentChars]
    simp only [fractionChars, List.map_nil, List.nil_append]
    exact .pure ⟨rfl, rfl⟩
  | some ds =>
    simp only [fractionChars, List.map_cons, List.cons_append, List.head?_cons]
    refine (Takes.skip _ _).bind_yields
      ((takes_digits ds.isDigit (digit?_exponent e stops)).bind_yields ?_)
    split
    · refine (Takes.peek _).bind_yields ?_
      split
      · exact .failAhead _
      · exact .failAhead _
    · exact .pure ⟨rfl, rfl⟩

/-- No sign stands among digits. -/
theorem Digits.ne_of_head? (ds : Digits) (stops : Stops rest) {l : Char} (part : isNumberPart l)
    (other : l.isDigit = false) : (ds.chars.map Symbol.char ++ rest).head? ≠ some (.char l) := by
  obtain ⟨cs, isDigit⟩ := ds
  cases cs with
  | nil => exact stops.ne part
  | cons c cs =>
    have digit := isDigit c List.mem_cons_self
    have hne : c ≠ l := ne_of_isDigit digit other
    simpa using hne

theorem takes_sign (sign : Option Bool) (ds : Digits) (stops : Stops rest) :
    Takes (do
      match ← peek with
      | some (.char '+') => do skip; pure (some false)
      | some (.char '-') => do skip; pure (some true)
      | _ => pure (some false))
      ((signChars sign).map .char ++ (ds.chars.map .char ++ rest)) (some (sign == some true))
      (ds.chars.map .char ++ rest) := by
  refine (Takes.peek _).bind ?_
  cases sign with
  | none =>
    have plus := Digits.ne_of_head? ds stops (l := '+') rfl rfl
    have minus := Digits.ne_of_head? ds stops (l := '-') rfl rfl
    simp only [signChars, List.map_nil, List.nil_append]
    exact .pure _ _
  | some negative =>
    cases negative <;> exact (Takes.skip _ _).bind (.pure _ _)

theorem takes_exponentSign_some (e : Exponent) (stops : Stops rest) :
    Takes exponentSign ((exponentChars (some e)).map .char ++ rest)
      (some (e.sign == some true)) (e.digits.chars.map .char ++ rest) := by
  obtain ⟨mark, isMark, sign, ds⟩ := e
  have text : (exponentChars (some ⟨mark, isMark, sign, ds⟩)).map Symbol.char ++ rest =
      .char mark :: ((signChars sign).map .char ++ (ds.chars.map .char ++ rest)) := by
    simp [exponentChars]
  rw [text]
  rcases isMark with rfl | rfl <;>
    exact (Takes.peek _).bind ((Takes.skip _ _).bind (takes_sign sign ds stops))

theorem takes_exponentSign_none (stops : Stops rest) : Takes exponentSign rest none rest := by
  refine (Takes.peek _).bind ?_
  split
  · next h => exact absurd h (stops.ne rfl)
  · next h => exact absurd h (stops.ne rfl)
  · exact .pure none rest

theorem digits_go_of_digits {cs : List Char} (h : ∀ c ∈ cs, c.isDigit)
    (stops : Stops rest) (p : Position) : (digits.go (cs.map .char ++ rest) p).2.rest = rest := by
  obtain ⟨q, hq⟩ := exists_digits_go h stops.digit?_eq_none p
  rw [hq]

theorem yields_exponentDigits (tooGreat : Bool) (ds : Digits) (stops : Stops rest) :
    Yields (exponentDigits tooGreat) (ds.chars.map .char ++ rest) fun power mid =>
      mid = rest ∧ power = power? 0 ds.values ∧ (power = none → tooGreat = false) := by
  obtain ⟨cs, isDigit⟩ := ds
  suffices go : ∀ n p power c, exponentDigits.go tooGreat (cs.map .char ++ rest) p n = .ok power c →
      c.rest = rest ∧ power = power? n (cs.map fun c => c.toNat - 48) ∧
        (power = none → tooGreat = false) from
    fun p power c h => go 0 p power c h
  induction cs with
  | nil =>
    intro n p power c h
    cases rest with
    | nil =>
      cases h
      exact ⟨rfl, rfl, by simp⟩
    | cons s rest =>
      have stop : digit? s = none := stops.digit?_eq_none s rfl
      simp only [List.map_nil, List.nil_append, exponentDigits.go, stop] at h
      cases h
      exact ⟨rfl, rfl, by simp⟩
  | cons d cs ih =>
    intro n p power c h
    have digit := digit?_of_isDigit (isDigit d List.mem_cons_self)
    have later : ∀ c ∈ cs, c.isDigit := fun c hc => isDigit c (List.mem_cons_of_mem d hc)
    simp only [List.map_cons, List.cons_append, exponentDigits.go, digit] at h
    simp only [List.map_cons, power?]
    split at h
    · next fits =>
      rw [if_pos fits]
      exact ih later _ _ _ _ h
    · next large =>
      rw [if_neg large]
      split at h
      · cases h
      · next small =>
        cases h
        exact ⟨digits_go_of_digits later stops _, rfl, fun _ => by simpa using small⟩

theorem yields_wantDigit (cause : Cause) {input : List Symbol} :
    Yields (wantDigit cause) input fun _ mid => mid = input := by
  refine (Takes.peek _).bind_yields ?_
  split
  · exact .fail _
  · split
    · exact .pure rfl
    · exact .failBehind _ _

theorem yields_scale {significand : Nat} {exponent : Int} {negative : Bool} {value : Option Number}
    (h : value = (Number.scale? significand exponent).map (Number.signed negative)) :
    Yields (match Number.scale? significand exponent with
      | some x => pure (Number.signed negative x)
      | none => fail .numberOutOfRange) rest fun n mid => mid = rest ∧ value = some n := by
  rw [h]
  cases Number.scale? significand exponent with
  | none => exact .fail _
  | some x => exact .pure ⟨rfl, rfl⟩

/-- A number behind its sign is read as the value of its literal. -/
theorem yields_number (l : Literal) (stops : Stops rest) :
    Yields (Reader.number l.negative) (l.unsigned.map .char ++ rest) fun n mid =>
      mid = rest ∧ l.value? = some n := by
  obtain ⟨negative, whole, fraction, exponent⟩ := l
  simp only [unsigned, List.map_append, List.append_assoc]
  refine (takes_wholeDigits whole _ (digit?_fraction fraction exponent stops)).bind_yields ?_
  refine (yields_fractionDigits _ fraction exponent stops).bind ?_
  rintro f mid ⟨rfl, rfl⟩
  rcases hw : Number.gather 0 ((Nat.toDigits 10 whole).map fun c => c.toNat - 48) with
    ⟨first, excess⟩
  rcases hf : Number.gather first ((fraction.map Digits.values).getD []) with
    ⟨significand, dropped⟩
  cases exponent with
  | none =>
    refine (takes_exponentSign_none stops).bind_yields ?_
    simp only [hw, hf]
    by_cases real : (fraction.map Digits.values).isSome || !excess.isEmpty
    · rw [if_pos real]
      refine yields_scale ?_
      have : (fraction.isNone && excess.isEmpty) = false := by
        cases fraction <;> simp_all
      simp [value?, parts, hw, hf, this]
    · rw [if_neg real]
      have : (fraction.isNone && excess.isEmpty) = true := by
        cases fraction <;> simp_all
      exact .pure ⟨rfl, by simp [value?, parts, hw, hf, this]⟩
  | some e =>
    refine (takes_exponentSign_some e stops).bind_yields ?_
    refine (yields_wantDigit _).bind ?_
    rintro u mid rfl
    refine (yields_exponentDigits _ e.digits stops).bind ?_
    rintro power mid ⟨rfl, hpower, small⟩
    simp only [hw, hf] at small ⊢
    cases power with
    | some power => exact yields_scale (by simp [value?, parts, hw, hf, ← hpower])
    | none => exact .pure ⟨rfl, by simpa [value?, parts, hw, hf, ← hpower] using small rfl⟩

end Literal

/-! ## Containers -/

theorem Layout.chars_append (g h : Layout) : (g ++ h : Layout).chars = g.chars ++ h.chars :=
  List.map_append

theorem Literal.exists_unsigned (l : Literal) :
    ∃ c cs, l.unsigned = c :: cs ∧ c.isDigit := by
  obtain ⟨c, cs, hcs, digit⟩ := exists_toDigits_head l.whole
  exact ⟨c, _, by rw [Literal.unsigned, hcs, List.cons_append], digit⟩

/-- The first character of a source tells what it is. -/
inductive Source.Opens : Source → Char → Prop where
  | null : Source.Opens .null 'n'
  | trueWord : Source.Opens (.bool true) 't'
  | falseWord : Source.Opens (.bool false) 'f'
  | negative {l : Literal} (h : l.negative = true) : Source.Opens (.number l) '-'
  | positive {l : Literal} (h : l.negative = false) {c : Char} (digit : c.isDigit) :
    Source.Opens (.number l) c
  | string (pieces : List Piece) : Source.Opens (.string pieces) '"'
  | array (inside : Layout) (items : Items) : Source.Opens (.array inside items) '['
  | object (inside : Layout) (members : Members) : Source.Opens (.object inside members) '\x7b'

namespace Source

/-- Behind blanks, the reader takes the text of the source or fails, and `post` holds of what it
gives. -/
def ReadBy {α : Type} (src : Source) (r : Reader α) (post : α → Prop) : Prop :=
  ∀ (before : Layout) (rest : List Symbol), Reader.Stops rest →
    Reader.Yields r (before.chars.map .char ++ (src.chars.map .char ++ rest)) fun a mid =>
      mid = rest ∧ post a

theorem exists_opens (src : Source) : ∃ c cs, src.chars = c :: cs ∧ src.Opens c := by
  cases src with
  | null => exact ⟨_, _, rfl, .null⟩
  | bool b =>
    cases b with
    | true => exact ⟨_, _, rfl, .trueWord⟩
    | false => exact ⟨_, _, rfl, .falseWord⟩
  | number l =>
    rw [chars, Literal.chars]
    split
    · next negative => exact ⟨_, _, rfl, .negative negative⟩
    · next positive =>
      obtain ⟨c, cs, hcs, digit⟩ := l.exists_unsigned
      exact ⟨c, cs, hcs, .positive (by simpa using positive) digit⟩
  | string pieces => exact ⟨_, _, rfl, .string pieces⟩
  | array inside items => exact ⟨_, _, rfl, .array inside items⟩
  | object inside members => exact ⟨_, _, rfl, .object inside members⟩

theorem Opens.isSpace_eq_false {src : Source} {c : Char} (h : src.Opens c) : isSpace c = false := by
  cases h with
  | positive h digit =>
    have other {d : Char} (hd : d.isDigit = false) : c ≠ d := Reader.ne_of_isDigit digit hd
    simp [isSpace, other]
  | _ => rfl

theorem Opens.ne_bracket {src : Source} {c : Char} (h : src.Opens c) : c ≠ ']' := by
  rintro rfl
  cases h with
  | positive h digit => cases digit

theorem symbols_string (pieces : List Piece) (rest : List Symbol) :
    (Source.string pieces).chars.map Symbol.char ++ rest =
      .char '"' :: ((pieces.flatMap Piece.chars).map .char ++ .char '"' :: rest) := by
  simp [chars, quoted]

theorem symbols_array (inside : Layout) (items : Items) (rest : List Symbol) :
    (Source.array inside items).chars.map Symbol.char ++ rest =
      .char '[' :: (inside.chars.map .char ++
        ((items.chars true).map .char ++ .char ']' :: rest)) := by
  simp [chars]

theorem symbols_object (inside : Layout) (members : Members) (rest : List Symbol) :
    (Source.object inside members).chars.map Symbol.char ++ rest =
      .char '\x7b' :: (inside.chars.map .char ++
        ((members.chars true).map .char ++ .char '\x7d' :: rest)) := by
  simp [chars]

end Source

namespace Reader

variable {α : Type} {rest : List Symbol}

theorem Stops.cons {c : Char} (h : isNumberPart c = false) (rest : List Symbol) :
    Stops (.char c :: rest) := by
  intro d hd
  cases hd
  exact h

theorem Stops.layout (g : Layout) (stops : Stops rest) : Stops (g.chars.map .char ++ rest) := by
  cases g with
  | nil => exact stops
  | cons b g => cases b <;> exact .cons rfl _

theorem stops_items (items : Items) (rest : List Symbol) :
    Stops ((items.chars false).map .char ++ .char ']' :: rest) := by
  cases items <;> exact .cons rfl _

theorem stops_members (members : Members) (rest : List Symbol) :
    Stops ((members.chars false).map .char ++ .char '\x7d' :: rest) := by
  cases members <;> exact .cons rfl _

/-- Blanks and a comma lead to the next item. -/
theorem takes_nextItem_layout (first : Bool) (g before : Layout) {c : Char}
    (blank : isSpace c = false) (bracket : c ≠ ']') (rest : List Symbol) :
    Takes (nextItem first)
      (g.chars.map .char ++ ((comma first).map .char ++
        (before.chars.map .char ++ .char c :: rest)))
      true (.char c :: rest) := by
  cases first with
  | true =>
    have ahead := takes_peekItem (g ++ before) blank rest
    rw [Layout.chars_append, List.map_append, List.append_assoc] at ahead
    refine ahead.bind ?_
    split
    · next h => cases h
    · next h => cases h; exact absurd rfl bracket
    · exact .pure true _
  | false =>
    refine (takes_peekItem g (c := ',') rfl _).bind
      ((Takes.skip _ _).bind ((takes_peekItem before blank rest).bind ?_))
    split
    · next h => cases h
    · next h => cases h; exact absurd rfl bracket
    · exact .pure true _

theorem takes_nextKey_layout (first : Bool) (g before : Layout) {name : List Piece}
    (portable : name.all Piece.isPortable) (rest : List Symbol) :
    Takes (nextKey first)
      (g.chars.map .char ++ ((comma first).map .char ++
        (before.chars.map .char ++ ((quoted name).map .char ++ rest))))
      (some (spelled name)) rest := by
  have text : (quoted name).map Symbol.char ++ rest =
      .char '"' :: ((name.flatMap Piece.chars).map .char ++ .char '"' :: rest) := by
    simp [quoted]
  have taken := (takes_string_pieces portable rest).map some
  rw [text]
  cases first with
  | true =>
    have ahead := takes_peekItem (g ++ before) (c := '"') rfl
      ((name.flatMap Piece.chars).map .char ++ .char '"' :: rest)
    rw [Layout.chars_append, List.map_append, List.append_assoc] at ahead
    exact ahead.bind ((Takes.skip _ _).bind taken)
  | false =>
    exact (takes_peekItem g (c := ',') rfl _).bind ((Takes.skip _ _).bind
      ((takes_peekItem before (c := '"') rfl _).bind ((Takes.skip _ _).bind taken)))

theorem takes_colon_layout (g : Layout) (rest : List Symbol) :
    Takes colon (g.chars.map .char ++ .char ':' :: rest) () rest :=
  (takes_peekItem g rfl rest).bind (Takes.skip _ rest)

theorem takes_nextItem_end_layout (first : Bool) (g : Layout) (rest : List Symbol) :
    Takes (nextItem first) (g.chars.map .char ++ .char ']' :: rest) false (.char ']' :: rest) :=
  (takes_peekItem g rfl rest).bind (.pure false _)

theorem takes_nextKey_end_layout (first : Bool) (g : Layout) (rest : List Symbol) :
    Takes (nextKey first) (g.chars.map .char ++ .char '\x7d' :: rest) none
      (.char '\x7d' :: rest) :=
  (takes_peekItem g rfl rest).bind (.pure none _)

section

variable {item : Reader α} {post : Source → α → Prop} {first : Bool} {n : Nat}

/-- The items of an array are read one by one. -/
theorem yields_items {items : Items}
    (h : ∀ src ∈ items.sources, src.ReadBy item (post src)) (hn : items.sources.length < n)
    (g : Layout) (rest : List Symbol) :
    Yields (Reader.items item n first)
      (g.chars.map .char ++ ((items.chars first).map .char ++ .char ']' :: rest))
      fun as mid => mid = .char ']' :: rest ∧ List.Forall₂ post items.sources as := by
  induction items using Items.induction generalizing first n g with
  | nil =>
    obtain _ | n := n
    · exact absurd hn (Nat.lt_irrefl _)
    · exact (takes_nextItem_end_layout first g rest).bind_yields (.pure ⟨rfl, .nil⟩)
  | cons before src after others ih =>
    obtain _ | n := n
    · exact absurd hn (Nat.not_lt_zero _)
    · obtain ⟨hsrc, hothers⟩ := List.forall_mem_cons.1 h
      obtain ⟨c, cs, hcs, opens⟩ := src.exists_opens
      have stops : Stops (after.chars.map .char ++
          ((others.chars false).map .char ++ .char ']' :: rest)) :=
        (stops_items others rest).layout after
      simp only [Items.chars, List.map_append, List.append_assoc]
      have taken := hsrc [] _ stops
      rw [hcs] at taken ⊢
      refine (takes_nextItem_layout first g before opens.isSpace_eq_false opens.ne_bracket
        _).bind_yields (taken.bind ?_)
      rintro a mid ⟨rfl, ha⟩
      refine (ih hothers (Nat.lt_of_succ_lt_succ hn) after).bind ?_
      rintro as mid ⟨rfl, has⟩
      exact .pure ⟨rfl, .cons ha has⟩

/-- The members of an object are read one by one. -/
theorem yields_members {members : Members} (portable : members.isPortable)
    (h : ∀ m ∈ members.entries, m.2.ReadBy item (post m.2))
    (hn : members.entries.length < n) (g : Layout) (rest : List Symbol) :
    Yields (Reader.members item n first)
      (g.chars.map .char ++ ((members.chars first).map .char ++ .char '\x7d' :: rest))
      fun as mid => mid = .char '\x7d' :: rest ∧
        List.Forall₂ (fun m a => a.1 = m.1 ∧ post m.2 a.2) members.entries as := by
  induction members using Members.induction generalizing first n g with
  | nil =>
    obtain _ | n := n
    · exact absurd hn (Nat.lt_irrefl _)
    · exact (takes_nextKey_end_layout first g rest).bind_yields (.pure ⟨rfl, .nil⟩)
  | cons before name mid behind value after others ih =>
    obtain _ | n := n
    · exact absurd hn (Nat.not_lt_zero _)
    · obtain ⟨hvalue, hothers⟩ := List.forall_mem_cons.1 h
      simp only [Members.isPortable, isPortableName, Bool.and_eq_true] at portable
      have stops : Stops (after.chars.map .char ++
          ((others.chars false).map .char ++ .char '\x7d' :: rest)) :=
        (stops_members others rest).layout after
      simp only [Members.chars, List.map_append, List.map_cons, List.append_assoc,
        List.cons_append]
      refine (takes_nextKey_layout first g before portable.1.1.1.1 _).bind_yields
        ((takes_colon_layout mid _).bind_yields ((hvalue behind _ stops).bind ?_))
      rintro a left ⟨rfl, ha⟩
      refine (ih portable.2 hothers (Nat.lt_of_succ_lt_succ hn) after).bind ?_
      rintro as left ⟨rfl, has⟩
      exact .pure ⟨rfl, .cons ⟨rfl, ha⟩ has⟩

theorem length_sources_le (items : Items) (first : Bool) :
    items.sources.length ≤ (items.chars first).length := by
  induction items using Items.induction generalizing first with
  | nil => exact Nat.zero_le _
  | cons before src after others ih =>
    obtain ⟨c, cs, hcs, -⟩ := src.exists_opens
    have := ih false
    simp only [Items.sources, Items.chars, hcs, List.length_append, List.length_cons]
    omega

theorem length_entries_le (members : Members) (first : Bool) :
    members.entries.length ≤ (members.chars first).length := by
  induction members using Members.induction generalizing first with
  | nil => exact Nat.zero_le _
  | cons before name mid behind value after others ih =>
    have := ih false
    simp only [Members.entries, Members.chars, quoted, List.length_append, List.length_cons]
    omega

/-- The inside of an array and its end. -/
theorem yields_array {items : Items} (h : ∀ src ∈ items.sources, src.ReadBy item (post src))
    (inside : Layout) (rest : List Symbol) :
    Yields (enclosed (do Reader.items item (← fuel) true) closeArray)
      (inside.chars.map .char ++ ((items.chars true).map .char ++ .char ']' :: rest))
      fun as mid => mid = rest ∧ List.Forall₂ post items.sources as := by
  have length := length_sources_le items true
  refine Yields.enclosed ((Takes.fuel _).bind_yields (yields_items h ?_ inside rest)) ?_
  · simp only [List.length_append, List.length_map]
    omega
  · rintro as mid ⟨rfl, has⟩
    exact (takes_closeArray rest).yields ⟨rfl, has⟩

/-- The inside of an object and its end. -/
theorem yields_object {members : Members} (portable : members.isPortable)
    (h : ∀ m ∈ members.entries, m.2.ReadBy item (post m.2)) (inside : Layout)
    (rest : List Symbol) :
    Yields (enclosed (do Reader.members item (← fuel) true) closeObject)
      (inside.chars.map .char ++ ((members.chars true).map .char ++ .char '\x7d' :: rest))
      fun as mid => mid = rest ∧
        List.Forall₂ (fun m a => a.1 = m.1 ∧ post m.2 a.2) members.entries as := by
  have length := length_entries_le members true
  refine Yields.enclosed
    ((Takes.fuel _).bind_yields (yields_members portable h ?_ inside rest)) ?_
  · simp only [List.length_append, List.length_map]
    omega
  · rintro as mid ⟨rfl, has⟩
    exact (takes_closeObject rest).yields ⟨rfl, has⟩

end

end Reader

/-! ## Values -/

theorem Items.jsons_eq (items : Items) : items.jsons = items.sources.map Source.json := by
  induction items using Items.induction with
  | nil => rfl
  | cons before src after rest ih => rw [jsons, ih]; rfl

theorem Members.jsons_eq (members : Members) :
    members.jsons = members.entries.map fun m => (m.1, m.2.json) := by
  induction members using Members.induction with
  | nil => rfl
  | cons before name mid behind value after rest ih => rw [jsons, ih]; rfl

theorem Items.height_le_iff {items : Items} {n : Nat} :
    items.height ≤ n ↔ ∀ src ∈ items.sources, src.height ≤ n := by
  induction items using Items.induction with
  | nil => simp [height, sources]
  | cons before src after rest ih =>
    rw [height, sources, List.forall_mem_cons, Nat.max_le, ih]

theorem Members.height_le_iff {members : Members} {n : Nat} :
    members.height ≤ n ↔ ∀ m ∈ members.entries, m.2.height ≤ n := by
  induction members using Members.induction with
  | nil => simp [height, entries]
  | cons before name mid behind value after rest ih =>
    rw [height, entries, List.forall_mem_cons, Nat.max_le, ih]

theorem Items.isPortable_iff {items : Items} :
    items.isPortable ↔ ∀ src ∈ items.sources, src.isPortable := by
  induction items using Items.induction with
  | nil => simp [isPortable, sources]
  | cons before src after rest ih => simp [isPortable, sources, ih]

theorem Members.isPortable_values {members : Members} (h : members.isPortable) :
    ∀ m ∈ members.entries, m.2.isPortable := by
  induction members using Members.induction with
  | nil => simp [entries]
  | cons before name mid behind value after rest ih =>
    simp only [isPortable, Bool.and_eq_true] at h
    exact List.forall_mem_cons.2 ⟨h.1.2, ih h.2⟩

namespace Source

open Reader

variable {inner : Option (Reader Json)}

theorem readBy_null : Source.null.ReadBy (valueWith inner) fun v => v = .null :=
  fun before rest _ => (takes_peekItem before (c := 'n') rfl _).bind_yields
    ((Takes.skip _ _).bind_yields
      ((takes_word ['u', 'l', 'l'] rest).bind_yields (.pure ⟨rfl, rfl⟩)))

theorem readBy_bool (b : Bool) : (Source.bool b).ReadBy (valueWith inner) fun v => v = .bool b := by
  intro before rest _
  cases b with
  | true =>
    exact (takes_peekItem before (c := 't') rfl _).bind_yields ((Takes.skip _ _).bind_yields
      ((takes_word ['r', 'u', 'e'] rest).bind_yields (.pure ⟨rfl, rfl⟩)))
  | false =>
    exact (takes_peekItem before (c := 'f') rfl _).bind_yields ((Takes.skip _ _).bind_yields
      ((takes_word ['a', 'l', 's', 'e'] rest).bind_yields (.pure ⟨rfl, rfl⟩)))

theorem readBy_string {pieces : List Piece} (portable : pieces.all Piece.isPortable) :
    (Source.string pieces).ReadBy (valueWith inner) fun v => v = .string (spelled pieces) := by
  intro before rest _
  rw [symbols_string]
  exact (takes_peekItem before (c := '"') rfl _).bind_yields ((Takes.skip _ _).bind_yields
    (((takes_string_pieces portable rest).map Json.string).yields ⟨rfl, rfl⟩))

theorem readBy_number (l : Literal) : (Source.number l).ReadBy (valueWith inner) fun v =>
    ∃ n, l.value? = some n ∧ v = .number n := by
  intro before rest stops
  have taken : Yields (Json.number <$> Reader.number l.negative) (l.unsigned.map .char ++ rest)
      fun v mid => mid = rest ∧ ∃ n, l.value? = some n ∧ v = .number n :=
    Yields.map ((l.yields_number stops).mono fun n mid h => ⟨h.1, n, h.2, rfl⟩)
  rw [chars, Literal.chars]
  split
  · next negative =>
    rw [negative] at taken
    exact (takes_peekItem before (c := '-') rfl _).bind_yields
      ((Takes.skip _ _).bind_yields taken)
  · next positive =>
    obtain ⟨c, cs, hcs, digit⟩ := l.exists_unsigned
    have other {l : Char} (hl : l.isDigit = false) : c ≠ l := ne_of_isDigit digit hl
    rw [Bool.not_eq_true] at positive
    rw [positive, hcs] at taken
    rw [hcs]
    refine (takes_peekItem before (by simp [isSpace, other]) _).bind_yields ?_
    simp only
    rw [if_neg (other rfl), if_neg (other rfl), if_neg (other rfl), if_neg (other rfl),
      if_pos digit]
    exact taken

theorem ReadBy.mono {α : Type} {src : Source} {r : Reader α} {post weaker : α → Prop}
    (h : src.ReadBy r post) (himp : ∀ a, post a → weaker a) : src.ReadBy r weaker :=
  fun before rest stops => (h before rest stops).mono fun a _ ha => ⟨ha.1, himp a ha.2⟩

/-- The value is that of the source, and its containers nest at most so deep. -/
def Says (depth : Nat) (src : Source) (v : Json) : Prop :=
  src.height ≤ depth ∧ v = src.json

/-- A source is read as its value, if its containers nest no deeper than the reader goes. -/
theorem readBy_value {src : Source} (portable : src.isPortable) (depth : Nat) :
    src.ReadBy (Reader.value depth) (Says depth src) := by
  -- The reader of a level looks at the level below only inside containers.
  have level (depth : Nat) : ∃ inner, Reader.value depth = valueWith inner := by
    cases depth with
    | zero => exact ⟨none, rfl⟩
    | succ depth => exact ⟨some (Reader.value depth), rfl⟩
  induction src using Source.induction generalizing depth with
  | null =>
    obtain ⟨inner, h⟩ := level depth
    exact h ▸ readBy_null.mono fun v hv => ⟨Nat.zero_le _, hv⟩
  | bool b =>
    obtain ⟨inner, h⟩ := level depth
    exact h ▸ (readBy_bool b).mono fun v hv => ⟨Nat.zero_le _, hv⟩
  | number l =>
    obtain ⟨inner, h⟩ := level depth
    refine h ▸ (readBy_number l).mono ?_
    rintro v ⟨n, hn, rfl⟩
    exact ⟨Nat.zero_le _, by simp [json, hn]⟩
  | string pieces =>
    obtain ⟨inner, h⟩ := level depth
    exact h ▸ (readBy_string portable).mono fun v hv => ⟨Nat.zero_le _, hv⟩
  | array inside items ih =>
    have portable := Items.isPortable_iff.1 portable
    intro before rest _
    rw [symbols_array]
    cases depth with
    | zero => exact (takes_peekItem before (c := '[') rfl _).bind_yields (.failAhead _)
    | succ depth =>
      refine (takes_peekItem before (c := '[') rfl _).bind_yields
        ((Takes.skip _ _).bind_yields (.map ?_))
      have each (src : Source) (hsrc : src ∈ items.sources) := ih src hsrc (portable src hsrc) depth
      refine (yields_array each inside rest).mono ?_
      rintro as mid ⟨rfl, has⟩
      obtain ⟨heights, has⟩ := (List.forall₂_and_left _ _).1 has
      exact ⟨rfl, Nat.succ_le_succ (Items.height_le_iff.2 heights),
        by rw [json, Items.jsons_eq, eq_map_of_forall₂ has]⟩
  | object inside members ih =>
    have values := Members.isPortable_values portable
    intro before rest _
    rw [symbols_object]
    cases depth with
    | zero => exact (takes_peekItem before (c := '\x7b') rfl _).bind_yields (.failAhead _)
    | succ depth =>
      refine (takes_peekItem before (c := '\x7b') rfl _).bind_yields
        ((Takes.skip _ _).bind_yields (.map ?_))
      refine (yields_object portable (fun m hm => ih m hm (values m hm) depth) inside rest).mono ?_
      rintro as mid ⟨rfl, has⟩
      have has : List.Forall₂ (fun m a => m.2.height ≤ depth ∧ a = (m.1, m.2.json))
          members.entries as := has.imp fun m a h => ⟨h.2.1, Prod.ext h.1 h.2.2⟩
      obtain ⟨heights, has⟩ := (List.forall₂_and_left _ _).1 has
      exact ⟨rfl, Nat.succ_le_succ (Members.height_le_iff.2 heights),
        by rw [json, Members.jsons_eq, eq_map_of_forall₂ has]⟩

end Source

end ScenarioSuite.Json
