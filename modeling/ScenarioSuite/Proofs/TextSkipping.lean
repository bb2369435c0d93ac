import ScenarioSuite.Proofs.JsonText

/-!
# Passing over texts

What no field of a record wants is passed over by its outline, without recursion: the reader keeps a
list of the containers that it is in. It is given three steps of fuel for each symbol that is left.
These last, because the reader takes a symbol at the latest with every third step.

## Main definitions

* `Json.Reader.Passes`: a text is passed over inside any containers, if what stands behind it is.
* `Json.Reader.Frame.Passes`: the same for an item of a container, with its name in an object.

## Main statements

* `Json.Reader.takes_skipRest_items`: the rest of a container is passed over item by item.
* `Json.Reader.passes_value`: the text of a plain value is passed over inside any containers.
* `Json.Reader.takes_skipValue`: the text of a plain value is passed over to its end.
-/

namespace ScenarioSuite.Json.Reader

open Text.Utf8 (Symbol)

variable {γ : Type} {input rest left : List Symbol} {frames : List Frame} {n : Nat}

/-! ## Numbers and strings -/

theorem takes_skipNumber (k : Nat) (closing : Closing rest) :
    Takes skipNumber ((Nat.toDigits 10 k).map .char ++ rest) () rest := by
  refine (takes_wholeDigits k _ fun s => closing.digit?_eq_none).bind ?_
  exact (takes_fractionDigits _ closing).bind ((takes_exponentSign closing).bind (.pure () rest))

/-- A character inside quotes is passed over, escaped or not. -/
theorem takes_skipString_escape {c : Char} (h : Takes (skipString n) input () rest) :
    Takes (skipString (n + 1)) ((escape c).map .char ++ input) () rest := by
  rcases escape_cases c with ⟨l, hl, text⟩ | ⟨control, text⟩ | ⟨visible, quote, backslash, text⟩
  · have hu : l ≠ 'u' := by rintro rfl; cases hl
    rw [text]
    refine (Takes.peek _).bind ((Takes.skip _ _).bind ((Takes.peek (.char l :: input)).bind ?_))
    simp only [List.head?_cons, hl, Option.isSome_some, if_true]
    exact (Takes.skip _ _).bind h
  · rw [text]
    have digits : Takes hexDigits _ c.toNat input := takes_hexDigits (by omega) input
    exact (Takes.peek _).bind ((Takes.skip _ _).bind ((Takes.peek _).bind ((Takes.skip _ _).bind
      (digits.bind h))))
  · rw [text]
    refine (Takes.peek _).bind ?_
    simp only [List.map_cons, List.map_nil, List.cons_append, List.nil_append, List.head?_cons]
    rw [if_neg (Nat.not_lt.2 visible)]
    exact (Takes.skip _ _).bind h

theorem takes_skipString {cs : List Char} (h : cs.length < n) (rest : List Symbol) :
    Takes (skipString n) ((cs.flatMap escape).map .char ++ .char '"' :: rest) () rest := by
  induction cs generalizing n with
  | nil =>
    obtain _ | n := n
    · exact absurd h (Nat.lt_irrefl _)
    · exact (Takes.peek _).bind (Takes.skip _ rest)
  | cons c cs ih =>
    obtain _ | n := n
    · exact absurd h (Nat.not_lt_zero _)
    · rw [List.flatMap_cons, List.map_append, List.append_assoc]
      exact takes_skipString_escape (ih (Nat.lt_of_succ_lt_succ h))

theorem takes_skipString_fuel (s : String) (rest : List Symbol) :
    Takes (do skipString (← fuel)) ((s.toList.flatMap escape).map .char ++ .char '"' :: rest) ()
      rest := by
  have length := length_le_length_escape s
  refine (Takes.fuel _).bind (takes_skipString ?_ rest)
  rw [List.length_append, List.length_map]
  omega

/-! ## Containers -/

/-- Inside any containers the text is passed over, if what stands behind it is. -/
structure Passes (text : List Char) : Prop where
  opens : Opens text
  takes (frames : List Frame) (rest left : List Symbol) (closing : Closing rest)
    (behind : ∀ n, 3 * rest.length + 2 < n → Takes (skipRest n frames true) rest () left) (n : Nat)
    (hn : 3 * (text.map Symbol.char ++ rest).length < n) :
    Takes (skipInside n frames) (text.map .char ++ rest) () left

/-- The bracket that ends a container. -/
def Frame.close : Frame → Char
  | .list => ']'
  | .object => '\x7d'

/-- What is no container is passed over in one step. -/
theorem Passes.of_step {text : List Char} (opens : Opens text)
    (step : ∀ (frames : List Frame) (rest left : List Symbol) (n : Nat), Closing rest →
      Takes (skipRest n frames true) rest () left →
        Takes (skipInside (n + 1) frames) (text.map .char ++ rest) () left) : Passes text where
  opens := opens
  takes frames rest left closing behind n hn := by
    have pos := opens.length_pos
    rw [List.length_append, List.length_map] at hn
    obtain ⟨n, rfl⟩ : ∃ m, n = m + 1 := ⟨n - 1, by omega⟩
    exact step frames rest left n closing (behind n (by omega))

theorem takes_skipRest_end {frame : Frame} (behindValue : Bool)
    (behind : Takes (skipRest n frames true) rest () left) :
    Takes (skipRest (n + 1) (frame :: frames) behindValue) (.char frame.close :: rest) () left := by
  cases frame <;> cases behindValue <;>
    exact (Takes.peekItem rfl rest).bind ((Takes.skip _ rest).bind behind)

/-- What does not end the container begins its next item, behind a comma unless it is the first. -/
theorem takes_skipRest_next {frame : Frame} (first : Bool) {c : Char} {cs : List Symbol}
    (blank : isSpace c = false) (close : c ≠ frame.close)
    (next : Takes (skipNext n frame frames) (.char c :: cs) () left) :
    Takes (skipRest (n + 1) (frame :: frames) (!first))
      ((comma first).map .char ++ .char c :: cs) () left := by
  cases first with
  | true =>
    refine (Takes.peekItem blank cs).bind ?_
    simp only [Bool.not_true, Bool.false_and, Bool.false_eq_true, if_false]
    rw [if_neg fun h => close (by cases h; cases frame <;> rfl)]
    exact next
  | false => exact (Takes.peekItem rfl _).bind ((Takes.skip _ _).bind next)

/-- As an item of such a container the text is passed over, if what stands behind it is. -/
structure Frame.Passes (frame : Frame) (text : List Char) : Prop where
  opens : ∃ c cs, text = c :: cs ∧ isSpace c = false ∧ c ≠ frame.close
  takes (frames : List Frame) (rest left : List Symbol) (closing : Closing rest)
    (behind : ∀ n, 3 * rest.length + 2 < n → Takes (skipRest n (frame :: frames) true) rest () left)
    (n : Nat) (hn : 3 * (text.map Symbol.char ++ rest).length + 1 < n) :
    Takes (skipNext n frame frames) (text.map .char ++ rest) () left

theorem Passes.item {text : List Char} (h : Passes text) : Frame.list.Passes text where
  opens := h.opens
  takes frames rest left closing behind n hn := by
    obtain ⟨n, rfl⟩ : ∃ m, n = m + 1 := ⟨n - 1, by omega⟩
    exact h.takes (.list :: frames) rest left closing behind n (by omega)

variable {text : γ → List Char}

theorem Passes.member {x : String × γ} (h : Passes (text x.2)) :
    Frame.object.Passes (memberText text x) where
  opens := ⟨'"', _, rfl, rfl, by decide⟩
  takes frames rest left closing behind n hn := by
    simp only [memberText, quoteChars, List.map_append, List.append_assoc, List.map_cons,
      List.cons_append, List.nil_append] at hn ⊢
    simp only [List.length_append, List.length_cons] at hn
    obtain ⟨n, rfl⟩ : ∃ m, n = m + 1 := ⟨n - 1, by omega⟩
    have inside := h.takes (.object :: frames) rest left closing behind n
      (by rw [List.length_append]; omega)
    exact (Takes.peekItem rfl _).bind ((Takes.skip _ _).bind
      ((takes_skipString_fuel x.1 _).bind ((takes_colon _).bind inside)))

/-- The rest of a container is passed over item by item. -/
theorem takes_skipRest_items {frame : Frame} {xs : List γ} (h : ∀ x ∈ xs, frame.Passes (text x))
    (behind : ∀ n, 3 * rest.length + 2 < n → Takes (skipRest n frames true) rest () left)
    (first : Bool)
    (hn : 3 * ((separated text first xs).map Symbol.char ++ .char frame.close :: rest).length + 2 <
      n) :
    Takes (skipRest n (frame :: frames) (!first))
      ((separated text first xs).map .char ++ .char frame.close :: rest) () left := by
  induction xs generalizing first n with
  | nil =>
    rw [separated, List.map_nil, List.nil_append, List.length_cons] at hn
    obtain ⟨n, rfl⟩ : ∃ m, n = m + 1 := ⟨n - 1, by omega⟩
    exact takes_skipRest_end (!first) (behind n (by omega))
  | cons x xs ih =>
    obtain ⟨passes, later⟩ := List.forall_mem_cons.1 h
    have closing : Closing ((separated text false xs).map .char ++ .char frame.close :: rest) :=
      closing_separated text xs (by cases frame <;> decide) rest
    simp only [separated, List.map_append, List.append_assoc] at hn ⊢
    rw [List.length_append] at hn
    obtain ⟨n, rfl⟩ : ∃ m, n = m + 1 := ⟨n - 1, by omega⟩
    -- What is behind the item is passed over with whatever fuel the item leaves.
    have next := passes.takes frames _ left closing (fun n hn => ih later false hn) n (by omega)
    obtain ⟨c, cs, htext, blank, close⟩ := passes.opens
    rw [htext] at next ⊢
    exact takes_skipRest_next first blank close next

/-! ## Values -/

theorem passes_natural (k : Nat) : Passes (Nat.toDigits 10 k) := by
  obtain ⟨c, cs, hcs, digit⟩ := exists_toDigits_head k
  have other {l : Char} (hl : l.isDigit = false) : c ≠ l := ne_of_isDigit digit hl
  have blank : isSpace c = false := by simp [isSpace, other]
  refine .of_step ⟨c, cs, hcs, blank, other rfl⟩ fun frames rest left n closing behind => ?_
  have taken : Takes (do skipNumber; skipRest n frames true)
      ((Nat.toDigits 10 k).map .char ++ rest) () left :=
    (takes_skipNumber k closing).bind behind
  rw [hcs] at taken ⊢
  refine (Takes.peekItem blank _).bind ?_
  simp only
  rw [if_neg (other rfl), if_neg (other rfl), if_neg (other rfl), if_neg (other rfl), if_pos digit]
  exact taken

/-- The text of a plain value is passed over inside any containers, whatever the order of its
members is. -/
theorem passes_value {depth : Nat} {v v' : Json} (plain : Plain depth v) (h : Rearranged v v') :
    Passes (renderChars v') := by
  have opens := (spells_value plain h).opens
  induction plain generalizing v' with
  | null =>
    cases h
    exact .of_step opens fun frames rest left n _ behind => (Takes.peekItem rfl _).bind
      ((Takes.skip _ _).bind ((takes_word ['u', 'l', 'l'] rest).bind behind))
  | bool b =>
    cases h
    cases b with
    | true =>
      exact .of_step opens fun frames rest left n _ behind => (Takes.peekItem rfl _).bind
        ((Takes.skip _ _).bind ((takes_word ['r', 'u', 'e'] rest).bind behind))
    | false =>
      exact .of_step opens fun frames rest left n _ behind => (Takes.peekItem rfl _).bind
        ((Takes.skip _ _).bind ((takes_word ['a', 'l', 's', 'e'] rest).bind behind))
  | @integer _ i _ _ =>
    cases h
    rcases renderChars_integer i with ⟨k, -, text⟩ | ⟨k, -, -, text⟩
    · exact text ▸ passes_natural k
    · rw [text] at opens ⊢
      exact .of_step opens fun frames rest left n closing behind => (Takes.peekItem rfl _).bind
        ((Takes.skip _ _).bind ((takes_skipNumber k closing).bind behind))
  | string s =>
    cases h
    refine .of_step opens fun frames rest left n _ behind => ?_
    rw [renderChars, quoteChars, List.cons_append, List.map_cons, List.map_append,
      List.cons_append, List.append_assoc]
    exact (Takes.peekItem rfl _).bind
      ((Takes.skip _ _).bind ((takes_skipString_fuel s rest).bind behind))
  | array plain ih =>
    obtain ⟨items', rfl, hitems⟩ := h.exists_items
    refine ⟨opens, fun frames rest left closing behind n hn => ?_⟩
    have passes : ∀ v' ∈ items', Frame.list.Passes (renderChars v') := by
      intro v' hv'
      obtain ⟨v, hv, h⟩ := exists_mem_of_forall₂ hitems hv'
      exact (ih v hv h (spells_value (plain v hv) h).opens).item
    rw [renderChars, renderItems_eq, List.cons_append, List.map_cons, List.map_append,
      List.cons_append, List.append_assoc] at hn ⊢
    rw [List.length_cons] at hn
    obtain ⟨n, rfl⟩ : ∃ m, n = m + 1 := ⟨n - 1, by omega⟩
    refine (Takes.peekItem rfl _).bind ((Takes.skip _ _).bind ?_)
    exact takes_skipRest_items passes behind true (by simp at hn ⊢; omega)
  | object _ plain ih =>
    obtain ⟨order, members', rfl, perm, hmembers⟩ := h.exists_members
    refine ⟨opens, fun frames rest left closing behind n hn => ?_⟩
    have passes : ∀ m' ∈ members', Frame.object.Passes (memberText renderChars m') := by
      intro m' hm'
      obtain ⟨m, hm, -, h⟩ := exists_mem_of_forall₂ hmembers hm'
      have hm := perm.mem_iff.2 hm
      exact (ih m hm h (spells_value (plain m hm) h).opens).member
    rw [renderChars, renderMembers_eq, List.cons_append, List.map_cons, List.map_append,
      List.cons_append, List.append_assoc] at hn ⊢
    rw [List.length_cons] at hn
    obtain ⟨n, rfl⟩ : ∃ m, n = m + 1 := ⟨n - 1, by omega⟩
    refine (Takes.peekItem rfl _).bind ((Takes.skip _ _).bind ?_)
    exact takes_skipRest_items passes behind true (by simp at hn ⊢; omega)

/-- The text of a plain value is passed over to its end. -/
theorem takes_skipValue {depth : Nat} {v v' : Json} (plain : Plain depth v) (h : Rearranged v v')
    (closing : Closing rest) :
    Takes skipValue ((renderChars v').map .char ++ rest) () rest := by
  have done : ∀ n, 3 * rest.length + 2 < n → Takes (skipRest n [] true) rest () rest := by
    intro n hn
    obtain ⟨n, rfl⟩ : ∃ m, n = m + 1 := ⟨n - 1, by omega⟩
    exact .pure () rest
  exact (Takes.fuel _).bind ((passes_value plain h).takes [] rest rest closing done _ (by omega))

end ScenarioSuite.Json.Reader
