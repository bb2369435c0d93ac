import ScenarioSuite.Proofs.SourceReading

/-!
# Passing over sources

What no field of a record wants is passed over by its outline, without recursion: the reader keeps
a list of the containers that it is in. Behind a source it goes on with these containers, so what
is said of a source here is said of a source and of what comes behind it.

## Main definitions

* `Json.Reader.Skips`: a source is passed over, if what comes behind it is.

## Main statements

* `Json.Source.skips`: a source is passed over inside any containers.
* `Json.Source.readBy_skipValue`: all of a source is passed over.
-/

namespace ScenarioSuite.Json

open Text.Utf8 (Symbol)

namespace Reader

variable {rest : List Symbol} {post : Unit → List Symbol → Prop}

/-! ## Numbers and strings -/

theorem yields_skipNumber (l : Literal) (stops : Stops rest) :
    Yields skipNumber (l.unsigned.map .char ++ rest) fun _ mid => mid = rest := by
  obtain ⟨negative, whole, fraction, exponent⟩ := l
  simp only [Literal.unsigned, List.map_append, List.append_assoc]
  have closing := Literal.digit?_fraction fraction exponent stops
  refine (takes_wholeDigits whole _ closing).bind_yields ?_
  refine (Literal.yields_fractionDigits _ fraction exponent stops).bind ?_
  rintro f mid ⟨-, rfl⟩
  cases exponent with
  | none => exact (Literal.takes_exponentSign_none stops).bind_yields (.pure rfl)
  | some e =>
    refine (Literal.takes_exponentSign_some e stops).bind_yields ?_
    refine (Literal.yields_wantDigit _).bind ?_
    rintro u mid rfl
    exact (takes_digits e.digits.isDigit stops.digit?_eq_none).bind_yields (.pure rfl)

/-- A piece of a string is passed over. -/
theorem yields_skipString_piece {piece : Piece} {n : Nat} {input : List Symbol}
    (h : Yields (skipString n) input post) :
    Yields (skipString (n + 1)) (piece.chars.map .char ++ input) post := by
  refine (Takes.peek _).bind_yields ?_
  cases piece with
  | raw c plain =>
    obtain ⟨control, quote, backslash⟩ := plain
    simp only [Piece.chars, List.map_cons, List.map_nil, List.cons_append, List.nil_append,
      List.head?_cons]
    rw [if_neg (by omega)]
    exact (Takes.skip _ _).bind_yields h
  | letter l c spells =>
    have hu : l ≠ 'u' := by rintro rfl; cases spells
    refine (Takes.skip _ _).bind_yields ((Takes.peek (.char l :: input)).bind_yields ?_)
    simp only [List.head?_cons, spells, Option.isSome_some, if_true]
    exact (Takes.skip _ _).bind_yields h
  | number a b c d =>
    exact (Takes.skip _ _).bind_yields ((Takes.peek _).bind_yields ((Takes.skip _ _).bind_yields
      ((takes_hexDigits_code a b c d input).bind_yields h)))

theorem yields_skipString (pieces : List Piece) (n : Nat) (rest : List Symbol) :
    Yields (skipString n) ((pieces.flatMap Piece.chars).map .char ++ .char '"' :: rest)
      fun _ mid => mid = rest := by
  induction pieces generalizing n with
  | nil =>
    cases n with
    | zero => exact .fail _
    | succ n => exact (Takes.peek _).bind_yields ((Takes.skip _ _).yields rfl)
  | cons piece pieces ih =>
    rw [List.flatMap_cons, List.map_append, List.append_assoc]
    cases n with
    | zero => exact .fail _
    | succ n => exact yields_skipString_piece (ih n)

/-! ## Values -/

/-- Behind blanks, the source is passed over inside any containers, if what comes behind it is. -/
def Skips (src : Source) : Prop :=
  ∀ (frames : List Frame) (rest : List Symbol) (post : Unit → List Symbol → Prop), Stops rest →
    (∀ n, Yields (skipRest n frames true) rest post) → ∀ (n : Nat) (before : Layout),
      Yields (skipInside n frames) (before.chars.map .char ++ (src.chars.map .char ++ rest)) post

/-- Without fuel the reader fails. -/
theorem Skips.of_succ {src : Source}
    (h : ∀ (frames : List Frame) (rest : List Symbol) (post : Unit → List Symbol → Prop),
      Stops rest → (∀ n, Yields (skipRest n frames true) rest post) → ∀ (n : Nat) (before : Layout),
        Yields (skipInside (n + 1) frames)
          (before.chars.map .char ++ (src.chars.map .char ++ rest)) post) : Skips src := by
  intro frames rest post stops behind n before
  cases n with
  | zero => exact .fail _
  | succ n => exact h frames rest post stops behind n before

variable {frames : List Frame}

/-- The rest of an array is passed over. -/
theorem yields_skipRest_list {items : Items} (h : ∀ src ∈ items.sources, Skips src)
    (behind : ∀ n, Yields (skipRest n frames true) rest post) (n : Nat) (first : Bool)
    (g : Layout) :
    Yields (skipRest n (.list :: frames) (!first))
      (g.chars.map .char ++ ((items.chars first).map .char ++ .char ']' :: rest)) post := by
  induction items using Items.induction generalizing n first g with
  | nil =>
    cases n with
    | zero => exact .fail _
    | succ n =>
      refine (takes_peekItem g (c := ']') rfl rest).bind_yields ?_
      simp only
      rw [if_neg (by simp), if_pos trivial]
      exact (Takes.skip _ _).bind_yields (behind n)
  | cons before src after others ih =>
    obtain ⟨hsrc, hothers⟩ := List.forall_mem_cons.1 h
    obtain ⟨c, cs, hcs, opens⟩ := src.exists_opens
    have stops : Stops (after.chars.map .char ++
        ((others.chars false).map .char ++ .char ']' :: rest)) :=
      (stops_items others rest).layout after
    have item (n : Nat) (before : Layout) := hsrc (.list :: frames) _ post stops
      (fun n => ih hothers n false after) n before
    cases n with
    | zero => exact .fail _
    | succ n =>
      simp only [Items.chars, List.map_append, List.append_assoc]
      cases first with
      | true =>
        have ahead := takes_peekItem (g ++ before) opens.isSpace_eq_false (cs.map .char ++
          (after.chars.map .char ++ ((others.chars false).map .char ++ .char ']' :: rest)))
        rw [Layout.chars_append, List.map_append, List.append_assoc] at ahead
        have next := item
        rw [hcs] at next ⊢
        refine ahead.bind_yields ?_
        simp only
        rw [if_neg (by simp), if_neg (by simpa using opens.ne_bracket), if_neg (by simp)]
        cases n with
        | zero => exact .fail _
        | succ n => exact next n []
      | false =>
        refine (takes_peekItem g (c := ',') rfl _).bind_yields ((Takes.skip _ _).bind_yields ?_)
        cases n with
        | zero => exact .fail _
        | succ n => exact item n before

/-- The rest of an object is passed over. -/
theorem yields_skipRest_object {members : Members} (h : ∀ m ∈ members.entries, Skips m.2)
    (behind : ∀ n, Yields (skipRest n frames true) rest post) (n : Nat) (first : Bool)
    (g : Layout) :
    Yields (skipRest n (.object :: frames) (!first))
      (g.chars.map .char ++ ((members.chars first).map .char ++ .char '\x7d' :: rest)) post := by
  induction members using Members.induction generalizing n first g with
  | nil =>
    cases n with
    | zero => exact .fail _
    | succ n =>
      refine (takes_peekItem g (c := '\x7d') rfl rest).bind_yields ?_
      simp only
      rw [if_neg (by simp), if_pos trivial]
      exact (Takes.skip _ _).bind_yields (behind n)
  | cons before name mid between value after others ih =>
    obtain ⟨hvalue, hothers⟩ := List.forall_mem_cons.1 h
    have stops : Stops (after.chars.map .char ++
        ((others.chars false).map .char ++ .char '\x7d' :: rest)) :=
      (stops_members others rest).layout after
    -- From its name on, a member is passed over alike behind a comma and behind the bracket.
    have next (n : Nat) (before : Layout) : Yields (skipNext n .object frames)
        (before.chars.map .char ++ ((quoted name).map .char ++ (mid.chars.map .char ++
          .char ':' :: (between.chars.map .char ++ (value.chars.map .char ++
            (after.chars.map .char ++
              ((others.chars false).map .char ++ .char '\x7d' :: rest))))))) post := by
      cases n with
      | zero => exact .fail _
      | succ n =>
        simp only [quoted, List.map_cons, List.map_append, List.map_nil, List.append_assoc,
          List.cons_append, List.nil_append]
        refine (takes_peekItem before (c := '"') rfl _).bind_yields ((Takes.skip _ _).bind_yields
          ((Takes.fuel _).bind_yields ?_))
        refine (yields_skipString name _ _).bind ?_
        rintro u left rfl
        exact (takes_colon_layout mid _).bind_yields (hvalue (.object :: frames) _ post stops
          (fun n => ih hothers n false after) n between)
    cases n with
    | zero => exact .fail _
    | succ n =>
      simp only [Members.chars, List.map_append, List.map_cons, List.append_assoc,
        List.cons_append]
      cases first with
      | true =>
        have ahead := takes_peekItem (g ++ before) (c := '"') rfl
        rw [Layout.chars_append, List.map_append] at ahead
        simp only [List.append_assoc] at ahead
        have named := next n []
        simp only [quoted, List.map_cons, List.map_append, List.map_nil, List.append_assoc,
          List.cons_append, List.nil_append] at named ⊢
        refine (ahead _).bind_yields ?_
        simp only
        rw [if_neg (by simp), if_neg (by simp), if_neg (by simp)]
        exact named
      | false =>
        exact (takes_peekItem g (c := ',') rfl _).bind_yields ((Takes.skip _ _).bind_yields
          (next n before))

end Reader

namespace Source

open Reader

theorem skips (src : Source) : Skips src := by
  induction src using Source.induction with
  | null =>
    refine .of_succ fun frames rest post stops behind n before => ?_
    exact (takes_peekItem before (c := 'n') rfl _).bind_yields ((Takes.skip _ _).bind_yields
      ((takes_word ['u', 'l', 'l'] rest).bind_yields (behind n)))
  | bool b =>
    refine .of_succ fun frames rest post stops behind n before => ?_
    cases b with
    | true =>
      exact (takes_peekItem before (c := 't') rfl _).bind_yields ((Takes.skip _ _).bind_yields
        ((takes_word ['r', 'u', 'e'] rest).bind_yields (behind n)))
    | false =>
      exact (takes_peekItem before (c := 'f') rfl _).bind_yields ((Takes.skip _ _).bind_yields
        ((takes_word ['a', 'l', 's', 'e'] rest).bind_yields (behind n)))
  | number l =>
    refine .of_succ fun frames rest post stops behind n before => ?_
    have taken : Yields (do skipNumber; skipRest n frames true) (l.unsigned.map .char ++ rest)
        post := by
      refine (yields_skipNumber l stops).bind ?_
      rintro u mid rfl
      exact behind n
    rw [chars, Literal.chars]
    split
    · exact (takes_peekItem before (c := '-') rfl _).bind_yields
        ((Takes.skip _ _).bind_yields taken)
    · obtain ⟨c, cs, hcs, digit⟩ := l.exists_unsigned
      have other {l : Char} (hl : l.isDigit = false) : c ≠ l := ne_of_isDigit digit hl
      rw [hcs] at taken ⊢
      refine (takes_peekItem before (by simp [isSpace, other]) _).bind_yields ?_
      simp only
      rw [if_neg (other rfl), if_neg (other rfl), if_neg (other rfl), if_neg (other rfl),
        if_pos digit]
      exact taken
  | string pieces =>
    refine .of_succ fun frames rest post stops behind n before => ?_
    rw [symbols_string]
    refine (takes_peekItem before (c := '"') rfl _).bind_yields ((Takes.skip _ _).bind_yields
      ((Takes.fuel _).bind_yields ((yields_skipString pieces _ rest).bind ?_)))
    rintro u mid rfl
    exact behind n
  | array inside items ih =>
    refine .of_succ fun frames rest post stops behind n before => ?_
    rw [symbols_array]
    exact (takes_peekItem before (c := '[') rfl _).bind_yields ((Takes.skip _ _).bind_yields
      (yields_skipRest_list ih behind n true inside))
  | object inside members ih =>
    refine .of_succ fun frames rest post stops behind n before => ?_
    rw [symbols_object]
    exact (takes_peekItem before (c := '\x7b') rfl _).bind_yields ((Takes.skip _ _).bind_yields
      (yields_skipRest_object ih behind n true inside))

/-- A source is passed over to its end. -/
theorem readBy_skipValue (src : Source) : src.ReadBy skipValue fun _ => True := by
  intro before rest stops
  refine (Takes.fuel _).bind_yields (src.skips [] rest _ stops ?_ _ before)
  intro n
  cases n with
  | zero => exact .fail _
  | succ n => exact .pure ⟨rfl, trivial⟩

end Source

end ScenarioSuite.Json
