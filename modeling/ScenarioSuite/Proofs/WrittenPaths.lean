import Mathlib.Algebra.Group.Nat.Defs
import ScenarioSuite.Proofs.Locations

/-!
# Paths as they are written

Every place in a value has a path that leads to it. The path is a dollar sign and the steps in
order: an index in brackets, a name in quotes and brackets, or a name behind a dot. A name may hold
almost anything; in quotes it can have no closing bracket and no quote at its ends, behind a dot it
cannot be empty nor have a dot or an opening bracket, and at the end of the path it cannot end in a
blank.

## Main definitions

* `Json.Path.Spelling`: a step as it is written, and `Spelling.Proper`, when it can be.
* `Json.Path.write`: the path of several steps.
* `Json.Leads`: the value at the end of several steps, one after another.

## Main statements

* `Json.Path.Writable.steps_write`: a path spells the steps that it is written from.
* `Json.follow?_eq_some_iff`, `Json.follow?_eq_none_iff`: where steps lead, and when to nowhere.
* `Json.at?_write`: a path leads where its steps do.
-/

namespace ScenarioSuite.Json

open Text (isBlank dropAround)

namespace Path

/-- A step as it is written in a path: `[n]`, `['name']` or `.name`. -/
inductive Spelling where
  | index (n : Nat)
  | quoted (name : String)
  | dotted (name : String)

namespace Spelling

/-- The step that is written. -/
def step : Spelling → Step
  | .index n => .index n
  | .quoted name => .field name
  | .dotted name => .field name

/-- The characters of a step. -/
def chars : Spelling → List Char
  | .index n => '[' :: Nat.toDigits 10 n ++ [']']
  | .quoted name => '[' :: ('\'' :: (name.toList ++ ['\''])) ++ [']']
  | .dotted name => '.' :: name.toList

/-- A step can be written in this way. -/
inductive Proper : Spelling → Prop where
  | index {n : Nat} (bound : n < 2 ^ 64) : Proper (.index n)
  | quoted {name : String} (closing : ']' ∉ name.toList)
      (first : name.toList.head? ≠ some '\'' ∧ name.toList.head? ≠ some '"')
      (last : name.toList.getLast? ≠ some '\'' ∧ name.toList.getLast? ≠ some '"') :
      Proper (.quoted name)
  | dotted {name : String} (ne_empty : name ≠ "") (dot : '.' ∉ name.toList)
      (opening : '[' ∉ name.toList) : Proper (.dotted name)

end Spelling

/-- The path of several steps. -/
def write (spellings : List Spelling) : String :=
  String.ofList ('$' :: spellings.flatMap Spelling.chars)

/-- Steps can be written one after another. -/
structure Writable (spellings : List Spelling) : Prop where
  proper : ∀ s ∈ spellings, s.Proper
  last : ∀ name, spellings.getLast? = some (.dotted name) →
    ∀ c ∈ name.toList.getLast?, ¬ isBlank c

/-! ## Reading one step -/

theorem foldl_toDigits (n : Nat) :
    (Nat.toDigits 10 n).foldl (fun n c => n * 10 + (c.toNat - 48)) 0 = n := by
  calc (Nat.toDigits 10 n).foldl (fun n c => n * 10 + (c.toNat - 48)) 0
    _ = Nat.ofDigitChars 10 (Nat.toDigits 10 n) 0 := by
      simp only [Nat.ofDigitChars, Nat.mul_comm]
      rfl
    _ = n := Nat.ofDigitChars_ten_toDigits

theorem index?_toDigits {n : Nat} (h : n < 2 ^ 64) : index? (Nat.toDigits 10 n) = some n := by
  have digits : ∀ c ∈ Nat.toDigits 10 n, c.isDigit := isDigit_of_mem_toDigits
  have noSign : ∀ rest, Nat.toDigits 10 n ≠ '+' :: rest := by
    intro rest heq
    have sign := digits '+' (heq ▸ List.mem_cons_self)
    cases sign
  have ne_nil : Nat.toDigits 10 n ≠ [] := Nat.toDigits_ne_nil
  unfold index?
  split
  · next rest heq => exact absurd heq (noSign rest)
  · simpa [ne_nil, foldl_toDigits] using And.intro digits h

theorem index?_of_not_digit {c : Char} {cs : List Char} (hc : ¬ c.isDigit) (sign : c ≠ '+') :
    index? (c :: cs) = none := by
  unfold index?
  split
  · next heq => exact absurd (List.cons.inj heq).1 sign
  · simp [hc]

theorem bracketed_toDigits {n : Nat} (h : n < 2 ^ 64) :
    bracketed (Nat.toDigits 10 n) = .index n := by
  have solid : ∀ c ∈ Nat.toDigits 10 n, ¬ isBlank c := by
    intro c hc
    apply Text.not_isBlank_of_isAlphanum
    simp [Char.isAlphanum, isDigit_of_mem_toDigits c hc]
  have bare : dropAround isBlank (Nat.toDigits 10 n) = Nat.toDigits 10 n :=
    Text.dropAround_eq_self (fun c hc => solid c (List.mem_of_mem_head? hc))
      fun c hc => solid c (List.mem_of_mem_getLast? hc)
  simp only [bracketed, bare, index?_toDigits h]

theorem not_isQuote_of_mem {o : Option Char} (h : o ≠ some '\'' ∧ o ≠ some '"') {c : Char}
    (hc : c ∈ o) : ¬ isQuote c := by
  intro quote
  simp only [isQuote, Bool.or_eq_true, beq_iff_eq] at quote
  rcases quote with rfl | rfl
  · exact h.1 hc
  · exact h.2 hc

theorem bracketed_quoted {name : List Char} (first : name.head? ≠ some '\'' ∧ name.head? ≠ some '"')
    (last : name.getLast? ≠ some '\'' ∧ name.getLast? ≠ some '"') :
    bracketed ('\'' :: (name ++ ['\''])) = .field (String.ofList name) := by
  have bare : dropAround isBlank ('\'' :: (name ++ ['\''])) = '\'' :: (name ++ ['\'']) := by
    apply Text.dropAround_eq_self
    · rintro c ⟨⟩
      decide
    · intro c hc
      rw [← List.cons_append, List.getLast?_concat, Option.mem_some_iff] at hc
      subst hc
      decide
  have stripped : dropAround isQuote ('\'' :: (name ++ ['\''])) = name := by
    rw [Text.dropAround_cons_of_pos (by decide), Text.dropAround_concat_of_pos (by decide)]
    exact Text.dropAround_eq_self (fun _ => not_isQuote_of_mem first)
      fun _ => not_isQuote_of_mem last
  have noIndex : index? ('\'' :: (name ++ ['\''])) = none :=
    index?_of_not_digit (by decide) (by decide)
  simp only [bracketed, bare, noIndex, stripped]

theorem isInside_of_not_mem {inside : List Char} (h : ']' ∉ inside) : ∀ c ∈ inside, isInside c := by
  intro c hc
  simp only [isInside, bne_iff_ne]
  exact fun heq => h (heq ▸ hc)

theorem takeWhile_isInside {inside : List Char} (h : ']' ∉ inside) (rest : List Char) :
    (inside ++ ']' :: rest).takeWhile isInside = inside :=
  Text.takeWhile_run (isInside_of_not_mem h) (by decide) rest

theorem dropWhile_isInside {inside : List Char} (h : ']' ∉ inside) (rest : List Char) :
    (inside ++ ']' :: rest).dropWhile isInside = ']' :: rest :=
  Text.dropWhile_run (isInside_of_not_mem h) (by decide) rest

/-- What stands between brackets is one step. -/
theorem stepsFrom_bracket {inside : List Char} (h : ']' ∉ inside) (rest : List Char) :
    stepsFrom [] ('[' :: (inside ++ ']' :: rest)) = bracketed inside :: stepsFrom [] rest := by
  rw [stepsFrom, takeWhile_isInside h, dropWhile_isInside h]
  rfl

/-- Characters that part nothing are added to the run. -/
theorem stepsFrom_append {cs : List Char} (h : ∀ c ∈ cs, c ≠ '.' ∧ c ≠ '[') (run rest : List Char) :
    stepsFrom run (cs ++ rest) = stepsFrom (run ++ cs) rest := by
  induction cs generalizing run with
  | nil => rw [List.nil_append, List.append_nil]
  | cons c cs ih =>
    obtain ⟨dot, bracket⟩ := h c List.mem_cons_self
    have next : stepsFrom run (c :: (cs ++ rest)) = stepsFrom (run ++ [c]) (cs ++ rest) := by
      rw [stepsFrom]
      · exact dot
      · exact bracket
    rw [List.cons_append, next, ih fun d hd => h d (List.mem_cons_of_mem c hd), List.append_assoc,
      List.singleton_append]

/-- In front of a dot or a bracket, and at the end, the run is a field. -/
theorem stepsFrom_run {rest : List Char} (h : ∀ c ∈ rest.head?, c = '.' ∨ c = '[')
    (run : List Char) : stepsFrom run rest = fieldOf run ++ stepsFrom [] rest := by
  cases rest with
  | nil => simp [stepsFrom, fieldOf]
  | cons c rest =>
    rcases h c rfl with rfl | rfl <;> simp [stepsFrom, fieldOf]

/-! ## Reading a whole path -/

/-- A step begins with what ends the run before it. -/
theorem head?_flatMap_chars (spellings : List Spelling) :
    ∀ c ∈ (spellings.flatMap Spelling.chars).head?, c = '.' ∨ c = '[' := by
  intro c hc
  cases spellings with
  | nil => cases hc
  | cons s spellings => cases s <;> cases hc <;> simp

theorem stepsFrom_chars {s : Spelling} (proper : s.Proper) {rest : List Char}
    (h : ∀ c ∈ rest.head?, c = '.' ∨ c = '[') :
    stepsFrom [] (s.chars ++ rest) = s.step :: stepsFrom [] rest := by
  cases proper with
  | @index n bound =>
    have closing : ']' ∉ Nat.toDigits 10 n := fun hmem => by cases isDigit_of_mem_toDigits _ hmem
    rw [Spelling.chars, List.append_assoc, List.cons_append, List.singleton_append,
      stepsFrom_bracket closing, bracketed_toDigits bound, Spelling.step]
  | @quoted name closing first last =>
    have closing' : ']' ∉ '\'' :: (name.toList ++ ['\'']) := by simp [closing]
    rw [Spelling.chars, List.append_assoc, List.cons_append, List.singleton_append,
      stepsFrom_bracket closing', bracketed_quoted first last, String.ofList_toList, Spelling.step]
  | @dotted name ne_empty dot opening =>
    have solid : ∀ c ∈ name.toList, c ≠ '.' ∧ c ≠ '[' := fun c hc =>
      ⟨fun heq => dot (heq ▸ hc), fun heq => opening (heq ▸ hc)⟩
    have run : fieldOf name.toList = [.field name] := by
      simp [fieldOf, ne_empty]
    rw [Spelling.chars, List.cons_append, stepsFrom, stepsFrom_append solid, List.nil_append,
      stepsFrom_run h, run]
    rfl

theorem stepsFrom_flatMap_chars {spellings : List Spelling} (proper : ∀ s ∈ spellings, s.Proper) :
    stepsFrom [] (spellings.flatMap Spelling.chars) = spellings.map Spelling.step := by
  induction spellings with
  | nil => simp [stepsFrom, fieldOf]
  | cons s spellings ih =>
    rw [List.flatMap_cons, List.map_cons,
      stepsFrom_chars (proper s List.mem_cons_self) (head?_flatMap_chars spellings),
      ih fun s hs => proper s (List.mem_cons_of_mem _ hs)]

theorem getLast?_chars {s : Spelling} (proper : s.Proper)
    (last : ∀ name, s = .dotted name → ∀ c ∈ name.toList.getLast?, ¬ isBlank c) :
    ∃ c, s.chars.getLast? = some c ∧ ¬ isBlank c := by
  cases proper with
  | index bound => exact ⟨']', List.getLast?_concat .., by decide⟩
  | quoted => exact ⟨']', List.getLast?_concat .., by decide⟩
  | @dotted name ne_empty =>
    have ne_nil : name.toList ≠ [] := mt String.toList_eq_nil_iff.1 ne_empty
    obtain ⟨c, hc⟩ := Option.isSome_iff_exists.1 (List.getLast?_isSome.2 ne_nil)
    refine ⟨c, ?_, last name rfl c hc⟩
    rw [Spelling.chars, List.getLast?_cons, hc, Option.getD_some]

/-- There are no blanks at the ends of a path. -/
theorem Writable.dropAround_chars {spellings : List Spelling} (h : Writable spellings) :
    dropAround isBlank ('$' :: spellings.flatMap Spelling.chars) =
      '$' :: spellings.flatMap Spelling.chars := by
  apply Text.dropAround_eq_self
  · rintro c ⟨⟩
    decide
  · intro c hc
    rcases List.eq_nil_or_concat spellings with rfl | ⟨front, s, rfl⟩
    · cases hc
      decide
    · rw [List.concat_eq_append] at h hc
      obtain ⟨d, hd, solid⟩ := getLast?_chars (h.proper s (by simp)) fun name hs =>
        h.last name (by rw [List.getLast?_concat, hs])
      rw [List.flatMap_append, List.flatMap_singleton, ← List.cons_append, List.getLast?_append, hd]
        at hc
      cases hc
      exact solid

/-- A path spells the steps that it is written from. -/
theorem Writable.steps_write {spellings : List Spelling} (h : Writable spellings) :
    steps (write spellings) = spellings.map Spelling.step := by
  rw [steps, body, write, String.toList_ofList, h.dropAround_chars, dropOne, if_pos rfl,
    stepsFrom_dropOne, stepsFrom_flatMap_chars h.proper]

end Path

/-! ## Where steps lead -/

open Json.Path (Step Spelling Writable write)

/-- Steps lead from a value to another one: each names a member of an object or an item of an
array. -/
inductive Leads : List Step → Json → Json → Prop where
  | nil (v : Json) : Leads [] v v
  | field {name : String} {members : List (String × Json)} {x y : Json} {rest : List Step}
      (h : Bindings.get? name members = some x) (behind : Leads rest x y) :
      Leads (.field name :: rest) (.object members) y
  | index {n : Nat} {items : List Json} {x y : Json} {rest : List Step}
      (h : items[n]? = some x) (behind : Leads rest x y) :
      Leads (.index n :: rest) (.array items) y

theorem leads_cons_iff {step : Step} {rest : List Step} {v y : Json} :
    Leads (step :: rest) v y ↔ ∃ x, step? step v = some x ∧ Leads rest x y := by
  constructor
  · intro h
    cases h with
    | field h behind => exact ⟨_, h, behind⟩
    | index h behind => exact ⟨_, h, behind⟩
  · rintro ⟨x, h, behind⟩
    cases step with
    | field name =>
      cases v with
      | object members => exact .field h behind
      | _ => cases h
    | index n =>
      cases v with
      | array items => exact .index h behind
      | _ => cases h

theorem leads_singleton_iff {step : Step} {v x : Json} :
    Leads [step] v x ↔ step? step v = some x := by
  rw [leads_cons_iff]
  constructor
  · rintro ⟨y, hy, ⟨⟩⟩
    exact hy
  · intro h
    exact ⟨x, h, .nil x⟩

theorem follow?_eq_some_iff {steps : List Step} {v x : Json} :
    follow? steps v = some x ↔ Leads steps v x := by
  induction steps generalizing v with
  | nil =>
    rw [follow?, Option.some_inj]
    constructor
    · rintro rfl
      exact .nil v
    · rintro ⟨⟩
      rfl
  | cons step rest ih =>
    rw [follow?, Option.bind_eq_some_iff, leads_cons_iff]
    simp only [ih]

theorem follow?_append (front behind : List Step) (v : Json) :
    follow? (front ++ behind) v = (follow? front v).bind (follow? behind) := by
  induction front generalizing v with
  | nil => rfl
  | cons step front ih =>
    rw [List.cons_append, follow?, follow?, Option.bind_assoc]
    exact congrArg _ (funext ih)

/-- Steps lead nowhere if there is a first one among them that does not exist. -/
theorem follow?_eq_none_iff {steps : List Step} {v : Json} :
    follow? steps v = none ↔ ∃ front step behind w, steps = front ++ step :: behind ∧
      Leads front v w ∧ ∀ x, ¬ Leads [step] w x := by
  constructor
  · intro h
    induction steps generalizing v with
    | nil => cases h
    | cons step rest ih =>
      cases hx : step? step v with
      | none =>
        refine ⟨[], step, rest, v, rfl, .nil v, ?_⟩
        intro x lead
        cases hx.symm.trans (leads_singleton_iff.1 lead)
      | some x =>
        rw [follow?, hx] at h
        obtain ⟨front, last, behind, w, rfl, hfront, missing⟩ := ih h
        exact ⟨step :: front, last, behind, w, rfl, leads_cons_iff.2 ⟨x, hx, hfront⟩, missing⟩
  · rintro ⟨front, step, behind, w, rfl, hfront, missing⟩
    have stuck : step? step w = none := by
      apply Option.eq_none_iff_forall_ne_some.2
      intro x hx
      exact missing x (leads_singleton_iff.2 hx)
    rw [follow?_append, follow?_eq_some_iff.2 hfront, Option.bind_some, follow?, stuck]
    rfl

/-- The path of several steps leads to the value that is found by taking the steps one after
another, and to nothing if and only if one of them does not exist. -/
theorem at?_write {spellings : List Spelling} (writable : Writable spellings) (v : Json) :
    (∀ x, v.at? (write spellings) = some x ↔ Leads (spellings.map Spelling.step) v x) ∧
      (v.at? (write spellings) = none ↔ ∃ front step behind w,
        spellings.map Spelling.step = front ++ step :: behind ∧ Leads front v w ∧
          ∀ x, ¬ Leads [step] w x) := by
  rw [at?, writable.steps_write]
  exact ⟨fun x => follow?_eq_some_iff, follow?_eq_none_iff⟩

/-- Names with brackets, dots, quotes and blanks in them, an empty name, and a number that is a name
of an object. -/
theorem at?_write_oddNames :
    let spellings : List Spelling :=
      [.dotted "$ ]'", .quoted "", .index 1, .quoted " a.[\"b ", .dotted "\t", .dotted "07"]
    let v : Json := .object [("$ ]'", .object [("", .array [.null,
      .object [(" a.[\"b ", .object [("\t", .object [("07", .bool true)])])]])])]
    write spellings = "$.$ ]'[''][1][' a.[\"b '].\t.07" ∧
      v.at? "$.$ ]'[''][1][' a.[\"b '].\t.07" = some (.bool true) := by
  intro spellings v
  have text : write spellings = "$.$ ]'[''][1][' a.[\"b '].\t.07" := by decide +kernel
  have writable : Writable spellings := by
    constructor
    · simp only [spellings, List.forall_mem_cons]
      refine ⟨.dotted ?_ ?_ ?_, .quoted ?_ ?_ ?_, .index ?_, .quoted ?_ ?_ ?_, .dotted ?_ ?_ ?_,
        .dotted ?_ ?_ ?_, List.forall_mem_nil _⟩ <;> decide +kernel
    · intro name h
      cases h
      have ends : "07".toList.getLast? = some '7' := by decide +kernel
      rw [ends]
      rintro c ⟨⟩
      decide
  have lead : Leads (spellings.map Spelling.step) v (.bool true) :=
    .field rfl (.field rfl (.index rfl (.field rfl (.field rfl (.field rfl (.nil _))))))
  exact ⟨text, text ▸ ((at?_write writable v).1 _).2 lead⟩

end ScenarioSuite.Json
