import ScenarioSuite.Proofs.WrittenPaths

/-!
# Brackets in paths

A path is checked by counting the square brackets that are open. It passes if it begins with a
dollar sign and its brackets match by a grammar. The steps of a path are read in another way, which
does not nest: a bracket that is opened is read up to the next one that closes, whatever is opened
in between. In a path that passes there always is such a bracket. Others that close may be left
over; they stand in the names of fields.

## Main definitions

* `Json.Path.Balanced`: the grammar of matching brackets.
* `Json.Path.closesInt32`: the count in a number of 32 bits.
* `Json.Path.Turn`, `Json.Path.Turns`: how the steps of a path are read, turn by turn.

## Main statements

* `Json.Path.closes_iff_balanced`: the count agrees with the grammar.
* `Json.Path.Turns.stepsFrom_eq`, `Json.Path.exists_turns`: the turns read the steps of a path.
* `Json.Path.isBalanced_iff_balanced`: which paths pass, and how their brackets are read.
-/

namespace ScenarioSuite.Json.Path

open Text (isBlank dropAround)

/-! ## Counting brackets -/

/-- Whether a character is a square bracket. -/
def isBracket (c : Char) : Bool :=
  c == '[' || c == ']'

/-- The square brackets of a text, in order. -/
def brackets (cs : List Char) : List Char :=
  cs.filter isBracket

/-- Brackets that match: none, or a pair with brackets that match inside it and behind it. -/
inductive Balanced : List Char → Prop where
  | empty : Balanced []
  | nest {inside behind : List Char} (hinside : Balanced inside) (hbehind : Balanced behind) :
      Balanced ('[' :: inside ++ ']' :: behind)

/-- The count of open brackets in a signed number of 32 bits, given up below zero. -/
def closesInt32 : Int32 → List Char → Bool
  | depth, [] => depth == 0
  | depth, '[' :: rest => closesInt32 (depth + 1) rest
  | depth, ']' :: rest => if depth - 1 < 0 then false else closesInt32 (depth - 1) rest
  | depth, _ :: rest => closesInt32 depth rest

theorem not_isBracket_iff {c : Char} : ¬ isBracket c ↔ c ≠ '[' ∧ c ≠ ']' := by
  simp [isBracket]

theorem closes_cons_of_not_isBracket {c : Char} (h : ¬ isBracket c) (depth : Nat)
    (rest : List Char) : closes depth (c :: rest) = closes depth rest := by
  obtain ⟨opening, closing⟩ := not_isBracket_iff.1 h
  cases depth <;> simp [closes, closing]

/-- Only the brackets of a text count. -/
theorem closes_brackets (depth : Nat) (cs : List Char) :
    closes depth (brackets cs) = closes depth cs := by
  induction cs generalizing depth with
  | nil => rfl
  | cons c rest ih =>
    by_cases h : isBracket c
    · rw [brackets, List.filter_cons_of_pos h]
      simp only [isBracket, Bool.or_eq_true, beq_iff_eq] at h
      rcases h with rfl | rfl
      · exact ih (depth + 1)
      · cases depth with
        | zero => rfl
        | succ depth => exact ih depth
    · rw [brackets, List.filter_cons_of_neg h, closes_cons_of_not_isBracket h]
      exact ih depth

theorem toInt_add_one {n : Int32} {depth : Nat} (h : n.toInt = depth)
    (bound : depth + 1 < 2 ^ 31) : (n + 1).toInt = (depth + 1 : Nat) := by
  have one : (1 : Int32).toInt = 1 := by decide
  rw [Int32.toInt_add, h, one, Int.bmod_eq_of_le] <;> omega

theorem toInt_sub_one {n : Int32} {depth : Nat} (h : n.toInt = depth) :
    (n - 1).toInt = (depth : Int) - 1 := by
  have one : (1 : Int32).toInt = 1 := by decide
  have := n.toInt_lt
  rw [Int32.toInt_sub, h, one, Int.bmod_eq_of_le] <;> omega

/-- With so few opening brackets the number does not overflow. -/
theorem closesInt32_eq_closes {cs : List Char} {n : Int32} {depth : Nat} (h : n.toInt = depth)
    (bound : depth + cs.count '[' < 2 ^ 31) : closesInt32 n cs = closes depth cs := by
  induction cs generalizing n depth with
  | nil =>
    rw [closes, closesInt32, Bool.eq_iff_iff, beq_iff_eq, beq_iff_eq, ← Int32.toInt_inj, h]
    exact Int.natCast_eq_zero
  | cons c rest ih =>
    by_cases opening : c = '['
    · subst opening
      rw [List.count_cons_self] at bound
      exact ih (toInt_add_one h (by omega)) (by omega)
    · rw [List.count_cons_of_ne opening] at bound
      by_cases closing : c = ']'
      · subst closing
        have below : n - 1 < 0 ↔ depth = 0 := by
          have zero : (0 : Int32).toInt = 0 := by decide
          rw [Int32.lt_iff_toInt_lt, toInt_sub_one h]
          omega
        cases depth with
        | zero => simp [closes, closesInt32, below]
        | succ depth =>
          rw [closesInt32, if_neg (mt below.1 (Nat.succ_ne_zero depth))]
          exact ih (by rw [toInt_sub_one h]; omega) (by omega)
      · rw [closes_cons_of_not_isBracket (not_isBracket_iff.2 ⟨opening, closing⟩)]
        simpa [closesInt32, opening, closing] using ih h bound

/-! ## The grammar -/

/-- Brackets that match leave the count as it is. -/
theorem Balanced.closes_append {cs : List Char} (h : Balanced cs) (depth : Nat)
    (rest : List Char) : closes depth (cs ++ rest) = closes depth rest := by
  induction h generalizing depth rest with
  | empty => rfl
  | @nest inside behind _ _ ihInside ihBehind =>
    calc closes depth ('[' :: inside ++ ']' :: behind ++ rest)
      _ = closes (depth + 1) (inside ++ ']' :: (behind ++ rest)) := by simp [closes]
      _ = closes (depth + 1) (']' :: (behind ++ rest)) := ihInside ..
      _ = closes depth rest := ihBehind ..

/-- What follows so many brackets that are open: those that close them, with brackets that match
around each. -/
inductive Unwinds : Nat → List Char → Prop where
  | last {cs : List Char} (h : Balanced cs) : Unwinds 0 cs
  | close {depth : Nat} {inside behind : List Char} (h : Balanced inside)
      (hbehind : Unwinds depth behind) : Unwinds (depth + 1) (inside ++ ']' :: behind)

theorem unwinds_of_closes {depth : Nat} {cs : List Char} (only : ∀ c ∈ cs, isBracket c)
    (h : closes depth cs) : Unwinds depth cs := by
  fun_induction closes depth cs with
  | case1 depth =>
    cases beq_iff_eq.1 h
    exact .last .empty
  | case2 depth rest ih =>
    -- The pair that this bracket begins is put in front of the brackets that match behind it.
    have unwinds := ih (fun c hc => only c (List.mem_cons_of_mem _ hc)) h
    cases unwinds with
    | @close _ inside behind hinside hbehind =>
      cases hbehind with
      | last hbehind => exact .last (.nest hinside hbehind)
      | @close depth inside' behind hinside' hbehind =>
        have nested := Unwinds.close (.nest hinside hinside') hbehind
        rwa [List.append_assoc, List.cons_append] at nested
  | case3 rest => cases h
  | case4 depth rest ih =>
    exact .close .empty (ih (fun c hc => only c (List.mem_cons_of_mem _ hc)) h)
  | case5 depth c rest opening closing other =>
    have bracket := only c List.mem_cons_self
    simp only [isBracket, Bool.or_eq_true, beq_iff_eq] at bracket
    rcases bracket with rfl | rfl
    · exact absurd rfl opening
    · cases depth with
      | zero => exact absurd rfl (closing rfl)
      | succ depth => exact absurd rfl (other depth rfl)

theorem closes_iff_balanced (cs : List Char) : closes 0 cs ↔ Balanced (brackets cs) := by
  constructor
  · intro h
    have only : ∀ c ∈ brackets cs, isBracket c := fun c hc => (List.mem_filter.1 hc).2
    cases unwinds_of_closes only (closes_brackets 0 cs ▸ h) with
    | last balanced => exact balanced
  · intro h
    calc closes 0 cs
      _ = closes 0 (brackets cs ++ []) := by rw [List.append_nil, closes_brackets]
      _ = true := h.closes_append 0 []

/-! ## Reading turn by turn -/

/-- A reader of steps between two turns: the characters of a field that has begun, and what is left
of the text. -/
structure Scan where
  run : List Char
  rest : List Char
deriving Repr, DecidableEq

/-- The reader of a path before its first turn. -/
def Scan.start (path : String) : Scan :=
  ⟨[], body path⟩

/-- One turn of reading, with the steps that it adds: a field ends at a dot, a bracket is read up to
the next one that closes, and any other character belongs to a field. -/
inductive Turn : Scan → List Step → Scan → Prop where
  | dot (run rest : List Char) : Turn ⟨run, '.' :: rest⟩ (fieldOf run) ⟨[], rest⟩
  | bracket (run rest : List Char) :
      Turn ⟨run, '[' :: rest⟩ (fieldOf run ++ [bracketed (rest.takeWhile isInside)])
        ⟨[], (rest.dropWhile isInside).drop 1⟩
  | plain {c : Char} (run rest : List Char) (dot : c ≠ '.') (bracket : c ≠ '[') :
      Turn ⟨run, c :: rest⟩ [] ⟨run ++ [c], rest⟩

/-- Any number of turns. -/
inductive Turns : Scan → List Step → Scan → Prop where
  | none (s : Scan) : Turns s [] s
  | next {s s' s'' : Scan} {added later : List Step} (turn : Turn s added s')
      (turns : Turns s' later s'') : Turns s (added ++ later) s''

theorem Turn.stepsFrom_eq {s s' : Scan} {added : List Step} (turn : Turn s added s') :
    stepsFrom s.run s.rest = added ++ stepsFrom s'.run s'.rest := by
  cases turn with
  | dot run rest => rw [stepsFrom]
  | bracket run rest => rw [stepsFrom, List.append_assoc, List.singleton_append]
  | plain run rest dot bracket =>
    rw [stepsFrom, List.nil_append]
    · exact dot
    · exact bracket

/-- The turns add the steps of the text, in order. -/
theorem Turns.stepsFrom_eq {s s' : Scan} {added : List Step} (turns : Turns s added s') :
    stepsFrom s.run s.rest = added ++ stepsFrom s'.run s'.rest := by
  induction turns with
  | none s => rfl
  | next turn _ ih => rw [turn.stepsFrom_eq, ih, List.append_assoc]

/-- The turns come to the end of the text. -/
theorem exists_turns (run rest : List Char) :
    ∃ added run', Turns ⟨run, rest⟩ added ⟨run', []⟩ := by
  fun_induction stepsFrom run rest with
  | case1 run => exact ⟨_, _, .none _⟩
  | case2 run rest ih =>
    obtain ⟨added, run', turns⟩ := ih
    exact ⟨_, _, .next (.dot run rest) turns⟩
  | case3 run rest ih =>
    obtain ⟨added, run', turns⟩ := ih
    exact ⟨_, _, .next (.bracket run rest) turns⟩
  | case4 run c rest dot bracket ih =>
    obtain ⟨added, run', turns⟩ := ih
    exact ⟨_, _, .next (.plain run rest dot bracket) turns⟩

/-! ## Brackets that are opened -/

/-- The brackets of what is left close as they open, with some open already. -/
def Scan.Closing (s : Scan) : Prop :=
  ∃ depth, closes depth s.rest

/-- Where a bracket is open, there is one that closes, and what is behind it closes as well. -/
theorem exists_closing {depth : Nat} {cs : List Char} (h : closes (depth + 1) cs) :
    ∃ inside behind, cs = inside ++ ']' :: behind ∧ ']' ∉ inside ∧
      ∃ depth', closes depth' behind := by
  induction cs generalizing depth with
  | nil => cases h
  | cons c rest ih =>
    by_cases closing : c = ']'
    · subst closing
      exact ⟨[], rest, rfl, List.not_mem_nil, depth, h⟩
    · have later : ∃ depth', closes (depth' + 1) rest := by
        by_cases opening : c = '['
        · subst opening
          exact ⟨depth + 1, h⟩
        · rw [closes_cons_of_not_isBracket (not_isBracket_iff.2 ⟨opening, closing⟩)] at h
          exact ⟨depth, h⟩
      obtain ⟨depth', hrest⟩ := later
      obtain ⟨inside, behind, rfl, outside, closes⟩ := ih hrest
      refine ⟨c :: inside, behind, rfl, ?_, closes⟩
      simpa [Ne.symm closing] using outside

theorem Scan.Closing.exists_bracket {run rest : List Char}
    (h : Scan.Closing ⟨run, '[' :: rest⟩) :
    ∃ inside behind, rest = inside ++ ']' :: behind ∧ ']' ∉ inside ∧
      ∃ depth, closes depth behind := by
  obtain ⟨depth, h⟩ := h
  exact exists_closing (show closes (depth + 1) rest from h)

theorem Turn.closing {s s' : Scan} {added : List Step} (turn : Turn s added s')
    (h : s.Closing) : s'.Closing := by
  obtain ⟨depth, h⟩ := h
  cases turn with
  | dot run rest =>
    have apart : ¬ isBracket '.' := by decide
    rw [closes_cons_of_not_isBracket apart] at h
    exact ⟨depth, h⟩
  | bracket run rest =>
    -- Brackets that are opened up to the one that closes are left open behind it.
    obtain ⟨inside, behind, rfl, outside, hbehind⟩ := Scan.Closing.exists_bracket ⟨depth, h⟩
    rwa [Scan.Closing, dropWhile_isInside outside]
  | @plain c run rest dot bracket =>
    by_cases closing : c = ']'
    · subst closing
      cases depth with
      | zero => cases h
      | succ depth => exact ⟨depth, h⟩
    · rw [closes_cons_of_not_isBracket (not_isBracket_iff.2 ⟨bracket, closing⟩)] at h
      exact ⟨depth, h⟩

theorem Turns.closing {s s' : Scan} {added : List Step} (turns : Turns s added s')
    (h : s.Closing) : s'.Closing := by
  induction turns with
  | none s => exact h
  | next turn _ ih => exact ih (turn.closing h)

theorem brackets_dropOne {c : Char} (h : ¬ isBracket c) (cs : List Char) :
    brackets (dropOne c cs) = brackets cs := by
  fun_cases dropOne c cs with
  | case1 rest => rw [brackets, brackets, List.filter_cons_of_neg h]
  | case2 => rfl
  | case3 => rfl

/-- What is left out of a path before its steps are read holds no brackets. -/
theorem brackets_body (path : String) : brackets (body path) = brackets path.toList := by
  have apart : ∀ c, isBlank c → ¬ isBracket c := by
    intro c blank
    refine not_isBracket_iff.2 ⟨?_, ?_⟩ <;> rintro rfl <;> exact absurd blank (by decide)
  rw [body, brackets_dropOne (by decide), brackets_dropOne (by decide)]
  exact Text.filter_dropAround apart path.toList

theorem Scan.closing_start {path : String} (h : isBalanced path) : (start path).Closing := by
  simp only [isBalanced, Bool.and_eq_true] at h
  refine ⟨0, ?_⟩
  rw [start, ← closes_brackets, brackets_body, closes_brackets]
  exact h.2

/-- The paths that pass are those that begin with a dollar sign and whose brackets match by the
grammar; a number of 32 bits is enough for the count while fewer than 2^31 brackets open. The steps
of a path are read turn by turn up to its end. In a path that passes, a bracket that is opened in
one of the turns is read up to one that closes, and reading goes on behind that. -/
theorem isBalanced_iff_balanced (path : String) :
    (isBalanced path ↔ path.toList.head? = some '$' ∧ Balanced (brackets path.toList)) ∧
    (path.toList.count '[' < 2 ^ 31 → closesInt32 0 path.toList = closes 0 path.toList) ∧
    (∃ added run, Turns (.start path) added ⟨run, []⟩ ∧ steps path = added ++ fieldOf run) ∧
    (isBalanced path → ∀ added run rest, Turns (.start path) added ⟨run, '[' :: rest⟩ →
      ∃ inside behind, rest = inside ++ ']' :: behind ∧ ']' ∉ inside ∧
        steps path = added ++ fieldOf run ++ bracketed inside :: stepsFrom [] behind) := by
  refine ⟨?_, fun bound => ?_, ?_, fun passes added run rest turns => ?_⟩
  · rw [isBalanced, Bool.and_eq_true, beq_iff_eq, closes_iff_balanced]
  · have zero : (0 : Int32).toInt = (0 : Nat) := by decide
    exact closesInt32_eq_closes zero (by omega)
  · obtain ⟨added, run, turns⟩ := exists_turns [] (body path)
    refine ⟨added, run, turns, ?_⟩
    have read := turns.stepsFrom_eq
    rwa [stepsFrom] at read
  · obtain ⟨inside, behind, rfl, outside, -⟩ :=
      (turns.closing (Scan.closing_start passes)).exists_bracket
    refine ⟨inside, behind, rfl, outside, ?_⟩
    have read := turns.stepsFrom_eq
    rwa [stepsFrom, takeWhile_isInside outside, dropWhile_isInside outside, ← List.append_assoc]
      at read

/-- A bracket inside brackets: the first one that closes ends the step, and the second one is left
for the name behind it. -/
theorem isBalanced_iff_balanced_nested :
    let path := "$.a[[0]].b"
    isBalanced path ∧ Balanced (brackets path.toList) ∧ path.toList.count '[' < 2 ^ 31 ∧
      closesInt32 0 path.toList = closes 0 path.toList ∧
      Turns (.start path) [] ⟨['a'], "[[0]].b".toList⟩ ∧
      ∃ inside behind, "[0]].b".toList = inside ++ ']' :: behind ∧ ']' ∉ inside ∧
        steps path = [.field "a"] ++ bracketed inside :: stepsFrom [] behind := by
  intro path
  have passes : isBalanced path := by decide +kernel
  have bound : path.toList.count '[' < 2 ^ 31 := by decide +kernel
  have text : Scan.start path = ⟨[], 'a' :: "[[0]].b".toList⟩ := by decide +kernel
  have turns : Turns (.start path) [] ⟨['a'], "[[0]].b".toList⟩ := by
    rw [text]
    exact .next (.plain [] _ (by decide) (by decide)) (.none _)
  obtain ⟨grammar, count, -, opened⟩ := isBalanced_iff_balanced path
  exact ⟨passes, (grammar.1 passes).2, bound, count bound, turns, opened passes [] ['a'] _ turns⟩

end ScenarioSuite.Json.Path
