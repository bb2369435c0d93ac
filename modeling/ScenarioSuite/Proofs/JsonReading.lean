import ScenarioSuite.Json.Printer
import ScenarioSuite.Json.Reader
import ScenarioSuite.Proofs.Outcome

/-!
# What the readers of JSON take

A reader takes symbols off the front of a text, gives a value and leaves the rest. The places that
it passes do not matter here, so they are left open. What spells a value for a reader is taken in
front of anything that can stand behind a value, and lists of such texts, parted by commas, are
taken item by item.

## Main definitions

* `Reader.Takes`: a reader gives a value and leaves a rest.
* `Reader.Closing`: what can stand behind a value.
* `Reader.Spells`: a text that a reader takes for a value.
* `Reader.separated`: texts parted by commas.

## Main statements

* `Reader.takes_string`: a text in quotes is read as it was.
* `Reader.takes_array`, `Reader.takes_object`: the inside of a container.
-/

namespace ScenarioSuite.Json.Reader

open Text.Utf8 (Symbol)

variable {α β : Type} {input mid rest : List Symbol} {a : α} {b : β}

/-- From the symbols `input` the reader gives `a` and leaves `rest`, whatever the place. -/
def Takes (r : Reader α) (input : List Symbol) (a : α) (rest : List Symbol) : Prop :=
  ∀ p, ∃ q, r ⟨input, p⟩ = .ok a ⟨rest, q⟩

namespace Takes

protected theorem pure (a : α) (input : List Symbol) : Takes (pure a) input a input :=
  fun p => ⟨p, rfl⟩

protected theorem bind {r : Reader α} {f : α → Reader β} (hr : Takes r input a mid)
    (hf : Takes (f a) mid b rest) : Takes (r >>= f) input b rest := by
  intro p
  obtain ⟨q, hq⟩ := hr p
  obtain ⟨q', hq'⟩ := hf q
  refine ⟨q', ?_⟩
  show EStateM.bind r f _ = _
  rw [EStateM.bind, hq]
  exact hq'

protected theorem map {r : Reader α} (f : α → β) (hr : Takes r input a rest) :
    Takes (f <$> r) input (f a) rest := by
  intro p
  obtain ⟨q, hq⟩ := hr p
  refine ⟨q, ?_⟩
  show EStateM.map f r _ = _
  rw [EStateM.map, hq]

theorem peek (input : List Symbol) : Takes peek input input.head? input :=
  fun p => ⟨p, rfl⟩

theorem fuel (input : List Symbol) : Takes fuel input (input.length + 1) input :=
  fun p => ⟨p, rfl⟩

theorem skip (s : Symbol) (rest : List Symbol) : Takes skip (s :: rest) () rest :=
  fun p => ⟨p.after s, rfl⟩

/-- Without a blank ahead there is nothing to pass over. -/
theorem peekItem {c : Char} (h : isSpace c = false) (rest : List Symbol) :
    Takes peekItem (.char c :: rest) (some (.char c)) (.char c :: rest) := by
  have drop (p : Position) : Cursor.dropSpaces ⟨.char c :: rest, p⟩ = ⟨.char c :: rest, p⟩ := by
    rw [Cursor.dropSpaces, Cursor.dropSpaces.go, h, if_neg Bool.false_ne_true]
  intro p
  refine ⟨p, ?_⟩
  rw [Reader.peekItem, drop]
  rfl

end Takes

theorem takes_word (letters : List Char) (rest : List Symbol) :
    Takes (word letters) (letters.map .char ++ rest) () rest := by
  induction letters with
  | nil => exact .pure () rest
  | cons letter letters ih =>
    refine (Takes.peek _).bind ?_
    simp only [List.map_cons, List.cons_append, List.head?_cons, if_true]
    exact (Takes.skip _ _).bind ih

/-! ## Strings -/

theorem hexDigit?_digitChar {d : Nat} (h : d < 16) : hexDigit? (Nat.digitChar d) = some d := by
  revert d; decide

theorem takes_hexDigits {n : Nat} (h : n < 256) (rest : List Symbol) :
    Takes hexDigits (['0', '0', Nat.digitChar (n / 16), Nat.digitChar (n % 16)].map .char ++ rest)
      n rest := by
  have zero : hexDigit? '0' = some 0 := rfl
  have high : hexDigit? (Nat.digitChar (n / 16)) = some (n / 16) := hexDigit?_digitChar (by omega)
  have low : hexDigit? (Nat.digitChar (n % 16)) = some (n % 16) := hexDigit?_digitChar (by omega)
  intro p
  refine ⟨⟨p.line, p.column + 4⟩, ?_⟩
  simp only [hexDigits, List.map_cons, List.map_nil, List.cons_append, List.nil_append, zero, high,
    low]
  congr 1
  omega

theorem takes_escapedCodePoint {c : Char} (h : c.toNat < 32) (rest : List Symbol) :
    Takes escapedCodePoint
      (['0', '0', Nat.digitChar (c.toNat / 16), Nat.digitChar (c.toNat % 16)].map .char ++ rest)
      c rest := by
  refine (takes_hexDigits (by omega) rest).bind ?_
  rw [if_neg (by omega), if_pos (by omega), Char.ofNat_toNat]
  exact .pure c rest

theorem takes_escaped_letter {l c : Char} (h : escapedLetter? l = some c) (rest : List Symbol) :
    Takes escaped (.char l :: rest) c rest := by
  have hu : l ≠ 'u' := by rintro rfl; cases h
  refine (Takes.peek _).bind ?_
  simp only [List.head?_cons, h]
  exact (Takes.skip _ _).bind (.pure c rest)

/-- The forms that a character inside quotes is written in: escaped by a letter, escaped by its
number, or as it is. -/
theorem escape_cases (c : Char) :
    (∃ l, escapedLetter? l = some c ∧ escape c = ['\\', l]) ∨
    (c.toNat < 32 ∧ escape c =
      ['\\', 'u', '0', '0', Nat.digitChar (c.toNat / 16), Nat.digitChar (c.toNat % 16)]) ∨
    (32 ≤ c.toNat ∧ c ≠ '"' ∧ c ≠ '\\' ∧ escape c = [c]) := by
  have ofNat_eq {k : Nat} (hk : c.toNat = k) : Char.ofNat k = c := by
    rw [← hk, Char.ofNat_toNat]
  unfold escape
  split
  · next hc => subst hc; exact .inl ⟨'"', rfl, rfl⟩
  split
  · next hc => subst hc; exact .inl ⟨'\\', rfl, rfl⟩
  split
  · next hc => subst hc; exact .inl ⟨'n', rfl, rfl⟩
  split
  · next hc => subst hc; exact .inl ⟨'r', rfl, rfl⟩
  split
  · next hc => subst hc; exact .inl ⟨'t', rfl, rfl⟩
  split
  · next hc => exact .inl ⟨'b', congrArg some (ofNat_eq hc), rfl⟩
  split
  · next hc => exact .inl ⟨'f', congrArg some (ofNat_eq hc), rfl⟩
  split
  · next hc => exact .inr (.inl ⟨hc, rfl⟩)
  · next quote backslash _ _ _ _ _ control =>
    exact .inr (.inr ⟨Nat.not_lt.1 control, quote, backslash, rfl⟩)

/-- A character inside quotes joins those gathered, escaped or not. -/
theorem takes_stringChars_escape {c : Char} {n : Nat} {gathered : List Char} {s : String}
    (h : Takes (stringChars n (c :: gathered) none) input s rest) :
    Takes (stringChars (n + 1) gathered none) ((escape c).map .char ++ input) s rest := by
  have escaped {text : List Symbol} (he : Takes escaped text c input) :
      Takes (stringChars (n + 1) gathered none) (.char '\\' :: text) s rest :=
    (Takes.peek _).bind ((Takes.skip _ _).bind (he.bind h))
  rcases escape_cases c with ⟨l, hl, text⟩ | ⟨control, text⟩ | ⟨visible, quote, backslash, text⟩
  · rw [text]
    exact escaped (takes_escaped_letter hl input)
  · rw [text]
    exact escaped
      ((Takes.peek _).bind ((Takes.skip _ _).bind (takes_escapedCodePoint control input)))
  · rw [text]
    refine (Takes.peek _).bind ?_
    simp only [List.map_cons, List.map_nil, List.cons_append, List.nil_append, List.head?_cons]
    rw [if_neg (Nat.not_lt.2 visible)]
    exact (Takes.skip _ _).bind h

theorem takes_stringChars {cs : List Char} {n : Nat} (h : cs.length < n) (gathered : List Char)
    (rest : List Symbol) :
    Takes (stringChars n gathered none) ((cs.flatMap escape).map .char ++ .char '"' :: rest)
      (String.ofList (gathered.reverse ++ cs)) rest := by
  induction cs generalizing gathered n with
  | nil =>
    cases n with
    | zero => exact absurd h (Nat.lt_irrefl _)
    | succ n =>
      rw [List.append_nil]
      exact (Takes.peek _).bind ((Takes.skip _ _).bind (.pure _ rest))
  | cons c cs ih =>
    cases n with
    | zero => exact absurd h (Nat.not_lt_zero _)
    | succ n =>
      have later := ih (Nat.lt_of_succ_lt_succ h) (c :: gathered)
      rw [List.reverse_cons, List.append_assoc] at later
      rw [List.flatMap_cons, List.map_append, List.append_assoc]
      exact takes_stringChars_escape later

theorem length_le_length_flatMap {text : α → List Char} (xs : List α)
    (h : ∀ x ∈ xs, 0 < (text x).length) : xs.length ≤ (xs.flatMap text).length := by
  induction xs with
  | nil => exact Nat.zero_le _
  | cons x xs ih =>
    have head := h x List.mem_cons_self
    have tail := ih fun y hy => h y (List.mem_cons_of_mem x hy)
    rw [List.flatMap_cons, List.length_append, List.length_cons]
    omega

theorem length_escape_pos (c : Char) : 0 < (escape c).length := by
  rcases escape_cases c with ⟨l, -, text⟩ | ⟨-, text⟩ | ⟨-, -, -, text⟩ <;>
    exact text ▸ Nat.zero_lt_succ _

theorem length_le_length_escape (s : String) :
    s.toList.length ≤ (s.toList.flatMap escape).length :=
  length_le_length_flatMap s.toList fun c _ => length_escape_pos c

/-- A text in quotes is read as it was, whatever its characters are. -/
theorem takes_string (s : String) (rest : List Symbol) :
    Takes string ((s.toList.flatMap escape).map .char ++ .char '"' :: rest) s rest := by
  -- Each character is written with one at least, so the fuel lasts.
  have length := length_le_length_escape s
  have enough : s.toList.length <
      ((s.toList.flatMap escape).map Symbol.char ++ .char '"' :: rest).length + 1 := by
    rw [List.length_append, List.length_map]
    omega
  have taken := takes_stringChars enough [] rest
  rw [List.reverse_nil, List.nil_append, String.ofList_toList] at taken
  exact (Takes.fuel _).bind taken

/-! ## Containers -/

/-- Nothing, or what can stand behind a value in a container. -/
def Closing (rest : List Symbol) : Prop :=
  ∀ s ∈ rest.head?, s = .char ',' ∨ s = .char ']' ∨ s = .char '\x7d'

/-- The text begins with a character that is neither a blank nor the end of an array. -/
def Opens (text : List Char) : Prop :=
  ∃ c cs, text = c :: cs ∧ isSpace c = false ∧ c ≠ ']'

/-- A text that the reader takes for `a`, in front of all that can stand behind a value. -/
structure Spells (r : Reader α) (text : List Char) (a : α) : Prop where
  opens : Opens text
  takes (rest : List Symbol) (closing : Closing rest) : Takes r (text.map .char ++ rest) a rest

theorem Closing.cons {c : Char} (h : c = ',' ∨ c = ']' ∨ c = '\x7d') (rest : List Symbol) :
    Closing (.char c :: rest) := by
  intro s hs
  cases hs
  rcases h with rfl | rfl | rfl <;> simp

theorem Opens.length_pos {text : List Char} (h : Opens text) : 0 < text.length := by
  obtain ⟨c, cs, rfl, -, -⟩ := h
  exact Nat.zero_lt_succ _

theorem takes_enclosed {inside : Reader α} {close : Reader Unit} (hi : Takes inside input a mid)
    (hc : Takes close mid () rest) : Takes (enclosed inside close) input a rest := by
  intro p
  obtain ⟨q, hq⟩ := hi p
  obtain ⟨q', hq'⟩ := hc q
  refine ⟨q', ?_⟩
  rw [enclosed, hq]
  show EStateM.seqRight close (fun _ => pure a) _ = _
  rw [EStateM.seqRight, hq']
  rfl

theorem takes_closeArray (rest : List Symbol) : Takes closeArray (.char ']' :: rest) () rest :=
  (Takes.peekItem rfl _).bind (Takes.skip _ rest)

theorem takes_closeObject (rest : List Symbol) : Takes closeObject (.char '\x7d' :: rest) () rest :=
  (Takes.peekItem rfl _).bind (Takes.skip _ rest)

theorem takes_colon (rest : List Symbol) : Takes colon (.char ':' :: rest) () rest :=
  (Takes.peekItem rfl _).bind (Takes.skip _ rest)

theorem takes_nextItem_end (first : Bool) (rest : List Symbol) :
    Takes (nextItem first) (.char ']' :: rest) false (.char ']' :: rest) :=
  (Takes.peekItem rfl _).bind (.pure false _)

theorem takes_nextKey_end (first : Bool) (rest : List Symbol) :
    Takes (nextKey first) (.char '\x7d' :: rest) none (.char '\x7d' :: rest) :=
  (Takes.peekItem rfl _).bind (.pure none _)

/-- What stands in front of an item: a comma, unless it is the first. -/
def comma (first : Bool) : List Char :=
  if first then [] else [',']

theorem takes_nextItem (first : Bool) {text : List Char} (opens : Opens text)
    (rest : List Symbol) :
    Takes (nextItem first) ((comma first).map .char ++ (text.map .char ++ rest)) true
      (text.map .char ++ rest) := by
  obtain ⟨c, cs, rfl, blank, bracket⟩ := opens
  cases first with
  | true =>
    refine (Takes.peekItem blank _).bind ?_
    split
    · next h => cases h
    · next h => cases h; exact absurd rfl bracket
    · exact .pure true _
  | false =>
    refine (Takes.peekItem rfl _).bind ((Takes.skip _ _).bind ((Takes.peekItem blank _).bind ?_))
    split
    · next h => cases h
    · next h => cases h; exact absurd rfl bracket
    · exact .pure true _

theorem takes_nextKey (first : Bool) (name : String) (rest : List Symbol) :
    Takes (nextKey first) ((comma first).map .char ++ ((quoteChars name.toList).map .char ++ rest))
      (some name) rest := by
  rw [quoteChars, List.cons_append, List.map_cons, List.map_append, List.cons_append,
    List.append_assoc]
  have taken := (takes_string name rest).map some
  cases first with
  | true => exact (Takes.peekItem rfl _).bind ((Takes.skip _ _).bind taken)
  | false =>
    exact (Takes.peekItem rfl _).bind ((Takes.skip _ _).bind
      ((Takes.peekItem rfl _).bind ((Takes.skip _ _).bind taken)))

section

variable {γ : Type} {item : Reader α} {text : γ → List Char} {first : Bool} {n : Nat}

/-- The texts of some elements, parted by commas. -/
def separated (text : γ → List Char) : Bool → List γ → List Char
  | _, [] => []
  | first, x :: xs => comma first ++ (text x ++ separated text false xs)

/-- The text of a member of an object. -/
def memberText (text : γ → List Char) (member : String × γ) : List Char :=
  quoteChars member.1.toList ++ ':' :: text member.2

theorem closing_separated (text : γ → List Char) (xs : List γ) {c : Char}
    (h : c = ',' ∨ c = ']' ∨ c = '\x7d') (rest : List Symbol) :
    Closing ((separated text false xs).map .char ++ .char c :: rest) := by
  cases xs with
  | nil => exact .cons h rest
  | cons x xs => exact .cons (.inl rfl) _

theorem length_le_length_separated {text : γ → List Char} {xs : List γ}
    (h : ∀ x ∈ xs, 0 < (text x).length) (first : Bool) :
    xs.length ≤ (separated text first xs).length := by
  induction xs generalizing first with
  | nil => exact Nat.zero_le _
  | cons x xs ih =>
    have head := h x List.mem_cons_self
    have tail := ih (fun y hy => h y (List.mem_cons_of_mem x hy)) false
    rw [separated, List.length_append, List.length_append, List.length_cons]
    omega

theorem length_le_length_members (text : γ → List Char) (xs : List (String × γ)) (first : Bool) :
    xs.length ≤ (separated (memberText text) first xs).length := by
  have nonempty : ∀ x ∈ xs, 0 < (memberText text x).length := fun x _ => Nat.zero_lt_succ _
  exact length_le_length_separated nonempty first

theorem takes_items {xs : List γ} {as : List α}
    (h : List.Forall₂ (fun x a => Spells item (text x) a) xs as) (hn : xs.length < n)
    (rest : List Symbol) :
    Takes (items item n first) ((separated text first xs).map .char ++ .char ']' :: rest) as
      (.char ']' :: rest) := by
  induction h generalizing first n with
  | nil =>
    obtain _ | n := n
    · exact absurd hn (Nat.lt_irrefl _)
    · exact (takes_nextItem_end first rest).bind (.pure [] _)
  | @cons x a xs as head _ ih =>
    obtain _ | n := n
    · exact absurd hn (Nat.not_lt_zero _)
    · have tail : Takes (items item n false) _ as _ := ih (Nat.lt_of_succ_lt_succ hn)
      simp only [separated, List.map_append, List.append_assoc]
      -- Behind an item stands a comma or the bracket, so the item may end there.
      exact (takes_nextItem first head.opens _).bind
        ((head.takes _ (closing_separated text xs (by decide) rest)).bind
          (tail.bind (.pure (a :: as) _)))

theorem takes_members {xs : List (String × γ)} {bs : List (String × α)}
    (h : List.Forall₂ (fun x b => b.1 = x.1 ∧ Spells item (text x.2) b.2) xs bs)
    (hn : xs.length < n) (rest : List Symbol) :
    Takes (members item n first)
      ((separated (memberText text) first xs).map .char ++ .char '\x7d' :: rest) bs
      (.char '\x7d' :: rest) := by
  induction h generalizing first n with
  | nil =>
    obtain _ | n := n
    · exact absurd hn (Nat.lt_irrefl _)
    · exact (takes_nextKey_end first rest).bind (.pure [] _)
  | @cons x b xs bs head _ ih =>
    obtain _ | n := n
    · exact absurd hn (Nat.not_lt_zero _)
    · obtain ⟨key, a⟩ := b
      obtain ⟨rfl, spells⟩ : key = x.1 ∧ Spells item (text x.2) a := head
      have tail : Takes (members item n false) _ bs _ := ih (Nat.lt_of_succ_lt_succ hn)
      simp only [separated, memberText, List.map_append, List.append_assoc, List.map_cons,
        List.cons_append]
      exact (takes_nextKey first x.1 _).bind ((takes_colon _).bind
        ((spells.takes _ (closing_separated (memberText text) xs (by decide) rest)).bind
          (tail.bind (.pure ((x.1, a) :: bs) _))))

/-- The items of an array up to its end, behind the opening bracket. -/
theorem takes_array {xs : List γ} {as : List α}
    (h : List.Forall₂ (fun x a => Spells item (text x) a) xs as) (rest : List Symbol) :
    Takes (enclosed (do items item (← fuel) true) closeArray)
      ((separated text true xs).map .char ++ .char ']' :: rest) as rest := by
  have nonempty : ∀ x ∈ xs, 0 < (text x).length := by
    intro x hx
    obtain ⟨a, spells⟩ := exists_forall₂_iff.1 ⟨as, h⟩ x hx
    exact spells.opens.length_pos
  have length := length_le_length_separated nonempty true
  refine takes_enclosed ((Takes.fuel _).bind (takes_items h ?_ rest)) (takes_closeArray rest)
  rw [List.length_append, List.length_map]
  omega

/-- The members of an object up to its end, behind the opening brace. -/
theorem takes_object {xs : List (String × γ)} {bs : List (String × α)}
    (h : List.Forall₂ (fun x b => b.1 = x.1 ∧ Spells item (text x.2) b.2) xs bs)
    (rest : List Symbol) :
    Takes (enclosed (do members item (← fuel) true) closeObject)
      ((separated (memberText text) true xs).map .char ++ .char '\x7d' :: rest) bs rest := by
  have length := length_le_length_members text xs true
  refine takes_enclosed ((Takes.fuel _).bind (takes_members h ?_ rest)) (takes_closeObject rest)
  rw [List.length_append, List.length_map]
  omega

end

/-! ## Whole texts -/

/-- A text that spells a value for a reader is read as this value. -/
theorem Spells.run_eq_ok {r : Reader α} {cs : List Char} (h : Spells r cs a) :
    run r (cs.map .char) = .ok a := by
  have closing : Closing [] := fun s hs => by cases hs
  obtain ⟨q, hq⟩ := h.takes [] closing ⟨1, 0⟩
  rw [List.append_nil] at hq
  have whole : whole r (.start (cs.map .char)) = .ok a ⟨[], q⟩ := by
    show EStateM.bind r _ _ = _
    rw [EStateM.bind, Cursor.start, hq]
    rfl
  rw [run, whole]

end ScenarioSuite.Json.Reader
