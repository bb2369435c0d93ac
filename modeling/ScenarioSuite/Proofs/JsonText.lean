import Mathlib.Algebra.Group.Int.Defs
import ScenarioSuite.Proofs.JsonReading
import ScenarioSuite.Proofs.Utf8

/-!
# JSON values and their texts

The text of a value is read as this value, if the value has integers of at most 64 bits as its only
numbers, keeps its objects in order and nests its containers no deeper than the reader goes. Real
numbers are left out, since their digits are rounded on both ways. The members of an object may be
written in another order, because reading puts them in order again.

## Main definitions

* `Json.Plain`: the values whose texts are read back.
* `Json.Rearranged`: a value with the members of its objects in any order.

## Main statements

* `Json.Reader.spells_value`: the text of a plain value, wherever a value may stand and in whatever
  order the members of objects are written.
* `Json.parse_render`: the text of a plain value, alone.
* `Json.parseBytes_encode`: a text and its bytes are read alike.
-/

namespace ScenarioSuite.Json

open Text.Utf8 (Symbol)

/-! ## Numbers -/

theorem Number.gather_map_toNat {cs : List Char} {n : Nat}
    (h : Nat.ofDigitChars 10 cs n < Nat.pow 2 64) :
    gather n (cs.map fun c => c.toNat - 48) = (Nat.ofDigitChars 10 cs n, []) := by
  induction cs generalizing n with
  | nil => rfl
  | cons c cs ih =>
    rw [Nat.ofDigitChars_cons, Nat.mul_comm] at h ⊢
    have le : n * 10 + (c.toNat - 48) ≤ Nat.ofDigitChars 10 cs (n * 10 + (c.toNat - 48)) := by
      have pos : 0 < 10 ^ cs.length := Nat.pow_pos (by decide)
      rw [Nat.ofDigitChars_eq_ofDigitChars_zero]
      exact Nat.le_trans (Nat.le_mul_of_pos_left _ pos) (Nat.le_add_right _ _)
    rw [List.map_cons, gather, if_pos (Nat.lt_of_le_of_lt le h)]
    exact ih h

/-- A positive number does not begin with a zero. -/
theorem exists_toDigits_eq_cons {n : Nat} (pos : 0 < n) :
    ∃ d cs, 0 < d ∧ d < 10 ∧ Nat.toDigits 10 n = Nat.digitChar d :: cs := by
  induction n using Nat.strongRecOn with
  | ind n ih =>
    rw [Nat.toDigits_eq_if (by decide)]
    split
    · next small => exact ⟨n, [], pos, small, rfl⟩
    · obtain ⟨d, cs, hd, hd', h⟩ := ih (n / 10) (by omega) (by omega)
      exact ⟨d, cs ++ [Nat.digitChar (n % 10)], hd, hd', by rw [h, List.cons_append]⟩

theorem isDigit_of_mem_toDigits {n : Nat} : ∀ c ∈ Nat.toDigits 10 n, c.isDigit :=
  fun _ hc => Nat.isDigit_of_mem_toDigits (by decide) (by decide) hc

theorem exists_toDigits_head (n : Nat) : ∃ c cs, Nat.toDigits 10 n = c :: cs ∧ c.isDigit := by
  obtain ⟨c, cs, h⟩ := List.exists_cons_of_ne_nil (Nat.toDigits_ne_nil : Nat.toDigits 10 n ≠ [])
  exact ⟨c, cs, h, isDigit_of_mem_toDigits c (h ▸ List.mem_cons_self)⟩

namespace Reader

variable {input rest : List Symbol}

theorem digit?_of_isDigit {c : Char} (h : c.isDigit) : digit? (.char c) = some (c.toNat - 48) :=
  if_pos (Char.isDigit_iff_toNat.1 h)

theorem digit?_digitChar {d : Nat} (h : d < 10) : digit? (.char (Nat.digitChar d)) = some d := by
  rw [digit?_of_isDigit (by rw [Nat.isDigit_digitChar]; exact decide_eq_true h),
    Nat.toNat_digitChar_sub_48_of_lt_ten h]

theorem exists_digits_go {cs : List Char} (h : ∀ c ∈ cs, c.isDigit)
    (stop : ∀ s ∈ rest.head?, digit? s = none) (p : Position) :
    ∃ q, digits.go (cs.map .char ++ rest) p = (cs.map fun c => c.toNat - 48, ⟨rest, q⟩) := by
  induction cs generalizing p with
  | nil =>
    refine ⟨p, ?_⟩
    cases rest with
    | nil => rfl
    | cons s rest => simp [digits.go, stop s rfl]
  | cons c cs ih =>
    obtain ⟨q, hq⟩ := ih (fun d hd => h d (List.mem_cons_of_mem c hd)) (p.after (.char c))
    refine ⟨q, ?_⟩
    simp [digits.go, digit?_of_isDigit (h c List.mem_cons_self), hq]

theorem takes_digits {cs : List Char} (h : ∀ c ∈ cs, c.isDigit)
    (stop : ∀ s ∈ rest.head?, digit? s = none) :
    Takes digits (cs.map .char ++ rest) (cs.map fun c => c.toNat - 48) rest := by
  intro p
  obtain ⟨q, hq⟩ := exists_digits_go h stop p
  refine ⟨q, ?_⟩
  rw [digits, hq]

theorem Closing.digit?_eq_none (closing : Closing rest) {s : Symbol} (h : s ∈ rest.head?) :
    digit? s = none := by
  rcases closing s h with rfl | rfl | rfl <;> rfl

theorem takes_wholeDigits (n : Nat) (cause : Cause) (stop : ∀ s ∈ rest.head?, digit? s = none) :
    Takes (wholeDigits cause) ((Nat.toDigits 10 n).map .char ++ rest)
      ((Nat.toDigits 10 n).map fun c => c.toNat - 48) rest := by
  rcases Nat.eq_zero_or_pos n with rfl | pos
  · rw [Nat.toDigits_zero]
    refine (Takes.peek _).bind ((Takes.skip _ rest).bind ((Takes.peek rest).bind ?_))
    cases rest with
    | nil => exact .pure [0] []
    | cons s rest =>
      simp only [List.head?_cons, Option.bind_some, stop s rfl]
      exact .pure [0] _
  · have taken : Takes digits ((Nat.toDigits 10 n).map .char ++ rest) _ rest :=
      takes_digits isDigit_of_mem_toDigits stop
    obtain ⟨d, cs, hpos, hlt, hd⟩ := exists_toDigits_eq_cons pos
    obtain ⟨d, rfl⟩ := Nat.exists_eq_succ_of_ne_zero (Nat.ne_of_gt hpos)
    rw [hd] at taken ⊢
    refine (Takes.peek _).bind ?_
    simp only [List.map_cons, List.cons_append, List.head?_cons, digit?_digitChar hlt]
    exact taken

theorem takes_fractionDigits (cause : Cause) (closing : Closing rest) :
    Takes (fractionDigits cause) rest none rest := by
  cases rest with
  | nil => exact (Takes.peek []).bind (.pure none [])
  | cons s rest =>
    rcases closing s rfl with rfl | rfl | rfl <;> exact (Takes.peek _).bind (.pure none _)

theorem takes_exponentSign (closing : Closing rest) : Takes exponentSign rest none rest := by
  cases rest with
  | nil => exact (Takes.peek []).bind (.pure none [])
  | cons s rest =>
    rcases closing s rfl with rfl | rfl | rfl <;> exact (Takes.peek _).bind (.pure none _)

theorem takes_number {n : Nat} (h : n < Nat.pow 2 64) (negative : Bool) (closing : Closing rest) :
    Takes (number negative) ((Nat.toDigits 10 n).map .char ++ rest)
      (Number.ofSignificand negative n) rest := by
  have gathered : Number.gather 0 ((Nat.toDigits 10 n).map fun c => c.toNat - 48) = (n, []) := by
    rw [Number.gather_map_toNat (by rwa [Nat.ofDigitChars_ten_toDigits]),
      Nat.ofDigitChars_ten_toDigits]
  refine (takes_wholeDigits n _ fun s => closing.digit?_eq_none).bind ?_
  rw [gathered]
  exact (takes_fractionDigits _ closing).bind ((takes_exponentSign closing).bind (.pure _ rest))

end Reader

/-! ## Values -/

/-- A value without real numbers, as it is after reading: integers fit into 64 bits and objects are
in the order of their names. Containers nest at most so deep. -/
inductive Plain : Nat → Json → Prop where
  | null {depth : Nat} : Plain depth .null
  | bool {depth : Nat} (b : Bool) : Plain depth (.bool b)
  | integer {depth : Nat} {n : Int} (least : -2 ^ 63 ≤ n) (greatest : n < 2 ^ 64) :
      Plain depth (.number (.integer n))
  | string {depth : Nat} (s : String) : Plain depth (.string s)
  | array {depth : Nat} {items : List Json} (h : ∀ item ∈ items, Plain depth item) :
      Plain (depth + 1) (.array items)
  | object {depth : Nat} {members : List (String × Json)} (ordered : Bindings.Ordered members)
      (h : ∀ m ∈ members, Plain depth m.2) : Plain (depth + 1) (.object members)

theorem Plain.objectOf {depth : Nat} {members : List (String × Json)}
    (h : ∀ m ∈ members, Plain depth m.2) : Plain (depth + 1) (objectOf members) :=
  .object (.ofList members) fun m hm => h m (Bindings.mem_of_mem_ofList hm)

/-- What is written for the bindings of a dictionary is plain if each of it is. -/
theorem Plain.entries {α : Type} {depth : Nat} {encode : α → Json} {d : Dict α}
    (h : ∀ entry ∈ d.entries, Plain depth (encode entry.2)) :
    Plain (depth + 1) (.object (d.entries.map fun entry => (entry.1, encode entry.2))) := by
  refine .object (List.pairwise_map.2 d.ordered) fun m hm => ?_
  obtain ⟨entry, hentry, rfl⟩ := List.mem_map.1 hm
  exact h entry hentry

theorem Plain.ofDict {depth : Nat} (d : Dict String) : Plain (depth + 1) (ofDict d) :=
  .entries fun entry _ => .string entry.2

/-- The second value is the first one with the members of each object in any order. -/
inductive Rearranged : Json → Json → Prop where
  | null : Rearranged .null .null
  | bool (b : Bool) : Rearranged (.bool b) (.bool b)
  | number (n : Number) : Rearranged (.number n) (.number n)
  | string (s : String) : Rearranged (.string s) (.string s)
  | array {items items' : List Json} (h : List.Forall₂ Rearranged items items') :
      Rearranged (.array items) (.array items')
  | object {members order members' : List (String × Json)} (perm : members.Perm order)
      (names : order.map (·.1) = members'.map (·.1))
      (h : List.Forall₂ Rearranged (order.map (·.2)) (members'.map (·.2))) :
      Rearranged (.object members) (.object members')

theorem Plain.rearranged {depth : Nat} {v : Json} (plain : Plain depth v) : Rearranged v v := by
  induction plain with
  | null => exact .null
  | bool b => exact .bool b
  | integer => exact .number _
  | string s => exact .string s
  | array _ ih => exact .array (List.forall₂_same.2 ih)
  | object _ _ ih =>
    refine .object (.refl _) rfl (List.forall₂_same.2 fun v hv => ?_)
    obtain ⟨m, hm, rfl⟩ := List.mem_map.1 hv
    exact ih m hm

theorem Rearranged.of_members {members order members' : List (String × Json)}
    (perm : members.Perm order)
    (h : List.Forall₂ (fun m m' => m.1 = m'.1 ∧ Rearranged m.2 m'.2) order members') :
    Rearranged (.object members) (.object members') := by
  refine .object perm ?_ ?_
  · rw [← List.forall₂_eq_eq_eq, List.forall₂_map_left_iff, List.forall₂_map_right_iff]
    exact h.imp fun _ _ h => h.1
  · rw [List.forall₂_map_left_iff, List.forall₂_map_right_iff]
    exact h.imp fun _ _ h => h.2

theorem Rearranged.objectOf {members members' : List (String × Json)}
    (nodup : (members.map (·.1)).Nodup)
    (h : List.Forall₂ (fun m m' => m.1 = m'.1 ∧ Rearranged m.2 m'.2) members members') :
    Rearranged (objectOf members) (.object members') :=
  .of_members (Bindings.ofList_perm nodup) h

theorem Rearranged.exists_items {items : List Json} {v : Json} (h : Rearranged (.array items) v) :
    ∃ items', v = .array items' ∧ List.Forall₂ Rearranged items items' := by
  cases h with
  | array h => exact ⟨_, rfl, h⟩

theorem Rearranged.exists_members {members : List (String × Json)} {v : Json}
    (h : Rearranged (.object members) v) :
    ∃ order members', v = .object members' ∧ members.Perm order ∧
      List.Forall₂ (fun m m' => m.1 = m'.1 ∧ Rearranged m.2 m'.2) order members' := by
  cases h with
  | @object _ order members' perm names h =>
    have names : List.Forall₂ Eq (order.map (·.1)) (members'.map (·.1)) :=
      List.forall₂_eq_eq_eq ▸ names
    rw [List.forall₂_map_left_iff, List.forall₂_map_right_iff] at names h
    exact ⟨order, members', rfl, perm, names.mp (fun _ _ => And.intro) h⟩

theorem renderItems_eq (items : List Json) :
    renderItems items = Reader.separated renderChars true items := by
  cases items with
  | nil => rfl
  | cons item rest =>
    induction rest generalizing item with
    | nil => simp [renderItems, Reader.separated, Reader.comma]
    | cons next rest ih => simp [renderItems, Reader.separated, Reader.comma, ih]

theorem renderMembers_eq (members : List (String × Json)) :
    renderMembers members =
      Reader.separated (Reader.memberText renderChars) true members := by
  cases members with
  | nil => rfl
  | cons member rest =>
    induction rest generalizing member with
    | nil => simp [renderMembers, Reader.separated, Reader.comma, Reader.memberText]
    | cons next rest ih =>
      simp [renderMembers, Reader.separated, Reader.comma, Reader.memberText, ih]

namespace Reader

variable {inner : Option (Reader Json)}

theorem spells_null : Spells (valueWith inner) (renderChars .null) .null where
  opens := ⟨'n', ['u', 'l', 'l'], rfl, rfl, by decide⟩
  takes rest _ := (Takes.peekItem rfl _).bind ((Takes.skip _ _).bind
    ((takes_word ['u', 'l', 'l'] rest).bind (.pure _ rest)))

theorem spells_bool (b : Bool) : Spells (valueWith inner) (renderChars (.bool b)) (.bool b) := by
  cases b with
  | true =>
    exact ⟨⟨'t', ['r', 'u', 'e'], rfl, rfl, by decide⟩, fun rest _ => (Takes.peekItem rfl _).bind
      ((Takes.skip _ _).bind ((takes_word ['r', 'u', 'e'] rest).bind (.pure _ rest)))⟩
  | false =>
    exact ⟨⟨'f', ['a', 'l', 's', 'e'], rfl, rfl, by decide⟩, fun rest _ =>
      (Takes.peekItem rfl _).bind
        ((Takes.skip _ _).bind ((takes_word ['a', 'l', 's', 'e'] rest).bind (.pure _ rest)))⟩

theorem spells_string (s : String) :
    Spells (valueWith inner) (renderChars (.string s)) (.string s) where
  opens := ⟨'"', s.toList.flatMap escape ++ ['"'], rfl, rfl, by decide⟩
  takes rest _ := by
    rw [renderChars, quoteChars, List.cons_append, List.map_cons, List.map_append,
      List.cons_append, List.append_assoc]
    exact (Takes.peekItem rfl _).bind
      ((Takes.skip _ _).bind ((takes_string s rest).map Json.string))

theorem ne_of_isDigit {c l : Char} (hc : c.isDigit) (hl : l.isDigit = false) : c ≠ l := by
  rintro rfl
  exact Bool.false_ne_true (hl.symm.trans hc)

theorem spells_natural {n : Nat} (h : n < Nat.pow 2 64) :
    Spells (valueWith inner) (Nat.toDigits 10 n) (.number (.integer n)) := by
  obtain ⟨c, cs, hcs, digit⟩ := exists_toDigits_head n
  have other {l : Char} (hl : l.isDigit = false) : c ≠ l := ne_of_isDigit digit hl
  have blank : isSpace c = false := by simp [isSpace, other]
  refine ⟨⟨c, cs, hcs, blank, other rfl⟩, fun rest closing => ?_⟩
  have taken := (takes_number h false closing).map Json.number
  rw [hcs] at taken ⊢
  refine (Takes.peekItem blank _).bind ?_
  simp only
  rw [if_neg (other rfl), if_neg (other rfl), if_neg (other rfl), if_neg (other rfl), if_pos digit]
  exact taken

/-- An integer is written as its digits, behind a sign if it is negative. -/
theorem renderChars_integer (n : Int) :
    (∃ k : Nat, n = k ∧ renderChars (.number (.integer n)) = Nat.toDigits 10 k) ∨
    (∃ k : Nat, 0 < k ∧ n = -k ∧
      renderChars (.number (.integer n)) = '-' :: Nat.toDigits 10 k) := by
  rw [renderChars, Number.render, Int.toString_eq_repr, Int.repr_eq_if]
  split
  · next nonneg =>
    obtain ⟨k, rfl⟩ := Int.eq_ofNat_of_zero_le nonneg
    exact .inl ⟨k, rfl, by rw [Int.toNat_natCast, Nat.toList_repr]⟩
  · next negative =>
    obtain ⟨k, hk⟩ := Int.eq_ofNat_of_zero_le (a := -n) (by omega)
    obtain rfl : n = -k := by omega
    refine .inr ⟨k, by omega, rfl, ?_⟩
    rw [String.toList_append, Int.neg_neg, Int.toNat_natCast, Nat.toList_repr]
    rfl

theorem spells_integer {n : Int} (least : -2 ^ 63 ≤ n) (greatest : n < 2 ^ 64) :
    Spells (valueWith inner) (renderChars (.number (.integer n))) (.number (.integer n)) := by
  rcases renderChars_integer n with ⟨k, rfl, text⟩ | ⟨k, pos, rfl, text⟩
  · rw [text]
    exact spells_natural (by rw [Nat.pow_eq]; omega)
  · have fits : k < Nat.pow 2 64 := by rw [Nat.pow_eq]; omega
    have signed : Number.ofSignificand true k = .integer (-k) := by
      rw [Number.ofSignificand, if_neg (by decide), if_neg (by rw [Nat.pow_eq]; omega)]
    rw [text, ← signed]
    exact ⟨⟨'-', _, rfl, rfl, by decide⟩, fun rest closing => (Takes.peekItem rfl _).bind
      ((Takes.skip _ _).bind ((takes_number fits true closing).map Json.number))⟩

theorem spells_array {item : Reader Json} {items items' : List Json}
    (h : List.Forall₂ (fun v' v => Spells item (renderChars v') v) items' items) :
    Spells (valueWith (some item)) (renderChars (.array items')) (.array items) where
  opens := ⟨'[', renderItems items' ++ [']'], rfl, rfl, by decide⟩
  takes rest _ := by
    rw [renderChars, renderItems_eq, List.cons_append, List.map_cons, List.map_append,
      List.cons_append, List.append_assoc]
    exact (Takes.peekItem rfl _).bind
      ((Takes.skip _ _).bind ((takes_array h rest).map Json.array))

/-- The members may stand in any order, since they are read into the order of their names. -/
theorem spells_object {item : Reader Json} {members order members' : List (String × Json)}
    (ordered : Bindings.Ordered members) (perm : members.Perm order)
    (h : List.Forall₂ (fun m' m => m.1 = m'.1 ∧ Spells item (renderChars m'.2) m.2)
      members' order) :
    Spells (valueWith (some item)) (renderChars (.object members')) (.object members) where
  opens := ⟨'\x7b', renderMembers members' ++ ['\x7d'], rfl, rfl, by decide⟩
  takes rest _ := by
    have taken := (takes_object h rest).map objectOf
    rw [objectOf, ordered.ofList_eq_of_perm perm] at taken
    rw [renderChars, renderMembers_eq, List.cons_append, List.map_cons, List.map_append,
      List.cons_append, List.append_assoc]
    exact (Takes.peekItem rfl _).bind ((Takes.skip _ _).bind taken)

/-- The text of a plain value spells this value, whatever the order of its members is. -/
theorem spells_value {depth : Nat} {v v' : Json} (plain : Plain depth v) (h : Rearranged v v') :
    Spells (value depth) (renderChars v') v := by
  -- The reader of a level looks at the level below only inside containers.
  have level (depth : Nat) : ∃ inner, value depth = valueWith inner := by
    cases depth with
    | zero => exact ⟨none, rfl⟩
    | succ depth => exact ⟨some (value depth), rfl⟩
  induction plain generalizing v' with
  | @null depth =>
    obtain ⟨inner, hinner⟩ := level depth
    cases h
    exact hinner ▸ spells_null
  | @bool depth b =>
    obtain ⟨inner, hinner⟩ := level depth
    cases h
    exact hinner ▸ spells_bool b
  | @integer depth n least greatest =>
    obtain ⟨inner, hinner⟩ := level depth
    cases h
    exact hinner ▸ spells_integer least greatest
  | @string depth s =>
    obtain ⟨inner, hinner⟩ := level depth
    cases h
    exact hinner ▸ spells_string s
  | array _ ih =>
    obtain ⟨items', rfl, hitems⟩ := h.exists_items
    refine spells_array (forall₂_of_common hitems (List.forall₂_same.2 fun v _ => Eq.refl v) ?_)
    rintro v hv v' _ h rfl
    exact ih v hv h
  | object ordered _ ih =>
    obtain ⟨order, members', rfl, perm, hmembers⟩ := h.exists_members
    refine spells_object ordered perm
      (forall₂_of_common hmembers (List.forall₂_same.2 fun m _ => Eq.refl m) ?_)
    rintro m hm m' _ ⟨name, h⟩ rfl
    exact ⟨name, ih m (perm.mem_iff.2 hm) h⟩

end Reader

/-- Reading the text of a plain value gives this value, whatever the order of its members is. -/
theorem parse_render_of_rearranged {v v' : Json} (plain : Plain Reader.depthLimit v)
    (h : Rearranged v v') : parse v'.render = .ok v := by
  rw [parse, render, Text.Utf8.symbolsOf, String.toList_ofList]
  exact (Reader.spells_value plain h).run_eq_ok

/-- Reading the text of a plain value gives this value. -/
theorem parse_render {v : Json} (plain : Plain Reader.depthLimit v) : parse v.render = .ok v :=
  parse_render_of_rearranged plain plain.rearranged

theorem parseBytes_encode (s : String) : parseBytes (Text.Utf8.encode s) = parse s := by
  rw [parseBytes, parse, Text.Utf8.symbols_encode]

end ScenarioSuite.Json
