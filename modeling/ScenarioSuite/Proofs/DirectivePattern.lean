import ScenarioSuite.Capture.Directive
import ScenarioSuite.Proofs.Trimming

/-!
# The pattern of directives

A directive is matched by a pattern: a name with blanks around it and an equals sign, and behind the
sign blanks, a path on one line and blanks up to the end. The part in front of the path matches in
one way only. Behind the sign a text can match in several ways, since a path may begin and end with
blanks; of these the pattern takes the one with the most blanks in front of the path, and among
those the one with the shortest path.

## Main definitions

* `Capture.Directive.Assigns`: what stands in front of the path of a directive.
* `Capture.Directive.Takes`: a way to match what stands behind the equals sign.
* `Capture.Directive.Prefers`: the way that the pattern takes.

## Main statements

* `Capture.Directive.split?_eq_some_iff`: what is taken off in front of the path.
* `Capture.Directive.path?_eq_some_iff`: what is taken for the path.
-/

namespace ScenarioSuite.Capture.Directive

open Text (isBlank dropAround)

/-! ## In front of the path -/

/-- A name of a variable: a letter or an underscore, with letters, digits and underscores behind
it. -/
inductive IsName : List Char → Prop where
  | intro {c : Char} {rest : List Char} (first : c.isAlpha ∨ c = '_')
      (others : ∀ x ∈ rest, x.isAlphanum ∨ x = '_') : IsName (c :: rest)

/-- A name with blanks around it and an equals sign stand in front of `behind`. -/
def Assigns (text name behind : List Char) : Prop :=
  IsName name ∧ ∃ before gap, text = before ++ (name ++ (gap ++ '=' :: behind)) ∧
    (∀ c ∈ before, isBlank c) ∧ ∀ c ∈ gap, isBlank c

theorem isNameStart_iff {c : Char} : isNameStart c ↔ c.isAlpha ∨ c = '_' := by
  simp [isNameStart]

theorem isNameChar_iff {c : Char} : isNameChar c ↔ c.isAlphanum ∨ c = '_' := by
  simp [isNameChar]

theorem isName_iff {name : List Char} :
    IsName name ↔ ∃ c rest, name = c :: rest ∧ isNameStart c ∧ ∀ x ∈ rest, isNameChar x := by
  simp only [isNameStart_iff, isNameChar_iff]
  constructor
  · rintro ⟨first, others⟩
    exact ⟨_, _, rfl, first, others⟩
  · rintro ⟨c, rest, rfl, first, others⟩
    exact .intro first others

theorem isNameChar_of_isNameStart {c : Char} (h : isNameStart c) : isNameChar c := by
  refine isNameChar_iff.2 ((isNameStart_iff.1 h).imp_left fun alpha => ?_)
  simp [Char.isAlphanum, alpha]

theorem not_isBlank_of_isNameChar {c : Char} (h : isNameChar c) : ¬ isBlank c := by
  rcases isNameChar_iff.1 h with h | rfl
  · exact Text.not_isBlank_of_isAlphanum h
  · decide

/-- Behind a name there is something that does not go on with it: a blank or the equals sign. -/
theorem exists_gap {gap : List Char} (hgap : ∀ c ∈ gap, isBlank c) (behind : List Char) :
    ∃ c rest, gap ++ '=' :: behind = c :: rest ∧ ¬ isNameChar c := by
  cases gap with
  | nil => exact ⟨'=', behind, rfl, by decide⟩
  | cons c gap =>
    exact ⟨c, _, rfl, fun h => not_isBlank_of_isNameChar h (hgap c List.mem_cons_self)⟩

/-- What is taken off in front of the path is a name between blanks and an equals sign. -/
theorem split?_eq_some_iff {text name behind : List Char} :
    split? text = some (name, behind) ↔ Assigns text name behind := by
  constructor
  · intro h
    unfold split? at h
    split at h
    · cases h
    next c rest first =>
      split at h
      · cases h
      next hstart =>
        split at h
        next sign =>
          cases h
          have text_eq : text = text.takeWhile isBlank ++ (c :: rest.takeWhile isNameChar ++
              ((rest.dropWhile isNameChar).takeWhile isBlank ++ '=' :: behind)) := by
            rw [← sign, List.takeWhile_append_dropWhile, List.cons_append,
              List.takeWhile_append_dropWhile, ← first, List.takeWhile_append_dropWhile]
          have isName : IsName (c :: rest.takeWhile isNameChar) :=
            isName_iff.2 ⟨c, _, rfl, by simpa using hstart, fun x => List.mem_takeWhile_imp⟩
          exact ⟨isName, _, _, text_eq, fun x => List.mem_takeWhile_imp,
            fun x => List.mem_takeWhile_imp⟩
        · cases h
  · rintro ⟨isName, before, gap, rfl, hbefore, hgap⟩
    obtain ⟨c, rest, rfl, hc, hrest⟩ := isName_iff.1 isName
    obtain ⟨x, others, hx, stop⟩ := exists_gap hgap behind
    have solid : ¬ isBlank c := not_isBlank_of_isNameChar (isNameChar_of_isNameStart hc)
    have first : (before ++ (c :: rest ++ (gap ++ '=' :: behind))).dropWhile isBlank =
        c :: (rest ++ (gap ++ '=' :: behind)) :=
      Text.dropWhile_run hbefore solid _
    have front : (rest ++ (gap ++ '=' :: behind)).takeWhile isNameChar = rest :=
      hx ▸ Text.takeWhile_run hrest stop others
    have back : (rest ++ (gap ++ '=' :: behind)).dropWhile isNameChar = gap ++ '=' :: behind :=
      hx ▸ Text.dropWhile_run hrest stop others
    have sign : (gap ++ '=' :: behind).dropWhile isBlank = '=' :: behind :=
      Text.dropWhile_run hgap (by decide) behind
    rw [split?, first]
    simp [hc, front, back, sign]

/-! ## The path -/

/-- A way to match what stands behind the equals sign: blanks, a path on one line, and blanks up to
the end. -/
structure Takes (behind gap path trail : List Char) : Prop where
  behind_eq : behind = gap ++ (path ++ trail)
  gap_blank : ∀ c ∈ gap, isBlank c
  path_ne_nil : path ≠ []
  single : '\n' ∉ path
  trail_blank : ∀ c ∈ trail, isBlank c

/-- The way that the pattern takes. It first takes as many blanks as it can, and then as short a
path as it can. -/
structure Prefers (behind gap path trail : List Char) : Prop where
  takes : Takes behind gap path trail
  greedy : ∀ gap' path' trail', Takes behind gap' path' trail' → gap'.length ≤ gap.length
  lazy : ∀ path' trail', Takes behind gap path' trail' → path.length ≤ path'.length

variable {behind gap path trail gap' path' trail' : List Char}

/-- Whatever is taken for the path, without the blanks around it the text is the same. -/
theorem Takes.dropAround_eq (h : Takes behind gap path trail) :
    dropAround isBlank behind = dropAround isBlank path := by
  rw [h.behind_eq, Text.dropAround_append_of_pos h.gap_blank,
    Text.dropAround_append_right_of_pos h.trail_blank]

/-- Only one path is preferred. -/
theorem Prefers.unique (h : Prefers behind gap path trail) (h' : Prefers behind gap' path' trail') :
    path = path' := by
  have sameGap : gap.length = gap'.length :=
    Nat.le_antisymm (h'.greedy _ _ _ h.takes) (h.greedy _ _ _ h'.takes)
  obtain ⟨rfl, rest⟩ :=
    List.append_inj (h.takes.behind_eq.symm.trans h'.takes.behind_eq) sameGap
  have samePath : path.length = path'.length :=
    Nat.le_antisymm (h.lazy _ _ h'.takes) (h'.lazy _ _ h.takes)
  exact (List.append_inj rest samePath).1

/-- A path between blanks that begins and ends with something else is the one that is preferred. -/
theorem prefers_of_solid (takes : Takes behind gap path trail)
    (first : ∀ c ∈ path.head?, ¬ isBlank c) (last : ∀ c ∈ path.getLast?, ¬ isBlank c) :
    Prefers behind gap path trail := by
  refine ⟨takes, fun gap' path' trail' h => ?_, fun path' trail' h => ?_⟩
  · -- More blanks in front would take in the first character of the path.
    rcases List.append_eq_append_iff.1 (takes.behind_eq.symm.trans h.behind_eq) with
      ⟨more, rfl, rest⟩ | ⟨fewer, rfl, -⟩
    · cases more with
      | nil => simp
      | cons c more =>
        obtain ⟨d, tail, rfl⟩ := List.exists_cons_of_ne_nil takes.path_ne_nil
        cases (List.cons.inj rest).1
        exact absurd (h.gap_blank c (by simp)) (first c rfl)
    · simp
  · -- A shorter path would leave its last character to the blanks behind it.
    have rest := List.append_cancel_left (takes.behind_eq.symm.trans h.behind_eq)
    rcases List.append_eq_append_iff.1 rest with ⟨more, rfl, -⟩ | ⟨fewer, rfl, heq⟩
    · simp
    · cases hlast : fewer.getLast? with
      | none => simp [List.getLast?_eq_none_iff.1 hlast]
      | some c =>
        have mem : c ∈ trail' := heq ▸ List.mem_append_left _ (List.mem_of_mem_getLast? hlast)
        have ends : c ∈ (path' ++ fewer).getLast? := by simp [List.getLast?_append, hlast]
        exact absurd (h.trail_blank c mem) (last c ends)

/-- Where only blanks stand, the pattern gives back the line breaks at the end and the blank in
front of them, which it takes for the path. -/
theorem prefers_blank {c : Char} (takes : Takes behind gap [c] trail)
    (breaks : ∀ d ∈ trail, d = '\n') : Prefers behind gap [c] trail := by
  refine ⟨takes, fun gap' path' trail' h => ?_, fun path' trail' h => ?_⟩
  · rcases List.append_eq_append_iff.1 (takes.behind_eq.symm.trans h.behind_eq) with
      ⟨more, rfl, rest⟩ | ⟨fewer, rfl, -⟩
    · cases more with
      | nil => simp
      | cons d more =>
        -- A path behind this blank would be made of line breaks.
        obtain ⟨e, tail, rfl⟩ := List.exists_cons_of_ne_nil h.path_ne_nil
        have trail_eq : trail = more ++ (e :: tail ++ trail') := (List.cons.inj rest).2
        have newline := breaks e (trail_eq ▸ by simp)
        exact absurd (newline ▸ List.mem_cons_self) h.single
    · simp
  · exact List.length_pos_of_ne_nil h.path_ne_nil

theorem exists_prefers_of_path? (h : path? behind = some path) :
    ∃ gap trail, Prefers behind gap path trail := by
  obtain ⟨gap, trail, behind_eq, gap_blank, trail_blank⟩ := Text.exists_dropAround isBlank behind
  unfold path? at h
  split at h
  · next none =>
    -- Only blanks: the last one that is no line break.
    obtain ⟨c, hc, rfl⟩ := Option.map_eq_some_iff.1 h
    obtain ⟨other, back, front, reversed, breaks⟩ := List.find?_eq_some_iff_append.1 hc
    have behind_eq : behind = front.reverse ++ ([c] ++ back.reverse) := by
      rw [← List.reverse_reverse behind, reversed]
      simp
    have blank := Text.dropAround_eq_nil_iff.1 none
    rw [behind_eq] at blank
    have takes : Takes behind front.reverse [c] back.reverse :=
      ⟨behind_eq, fun d hd => blank d (List.mem_append_left _ hd), List.cons_ne_nil c [],
        mt List.mem_singleton.1 (Ne.symm (by simpa using other)),
        fun d hd => blank d (List.mem_append_right _ (List.mem_append_right _ hd))⟩
    exact ⟨_, _, prefers_blank takes (by simpa using breaks)⟩
  · next c rest solid =>
    split at h
    · cases h
    · next single =>
      cases h
      have first := fun d => @Text.not_of_mem_head?_dropAround isBlank behind d
      have last := fun d => @Text.not_of_mem_getLast?_dropAround isBlank behind d
      rw [solid] at behind_eq first last
      exact ⟨gap, trail, prefers_of_solid
        ⟨behind_eq, gap_blank, List.cons_ne_nil c rest, single, trail_blank⟩ first last⟩

theorem isSome_path?_of_takes (h : Takes behind gap path trail) : (path? behind).isSome := by
  unfold path?
  split
  · obtain ⟨c, rest, rfl⟩ := List.exists_cons_of_ne_nil h.path_ne_nil
    have other : c ≠ '\n' := fun heq => h.single (heq ▸ List.mem_cons_self)
    rw [Option.isSome_map, List.find?_isSome, h.behind_eq]
    exact ⟨c, by simp, by simpa using other⟩
  · next c rest solid =>
    have single : '\n' ∉ c :: rest := by
      rw [← solid, h.dropAround_eq]
      exact fun hmem => h.single (Text.mem_of_mem_dropAround hmem)
    rw [if_neg single]
    rfl

/-- There is a path where a text without the blanks around it has no line break, and not all of its
characters are line breaks. -/
theorem isSome_path?_iff :
    (path? behind).isSome ↔ '\n' ∉ dropAround isBlank behind ∧ ∃ c ∈ behind, c ≠ '\n' := by
  unfold path?
  split
  · next none => simp [none]
  · next c rest solid =>
    have mem : c ∈ behind := Text.mem_of_mem_dropAround (solid ▸ List.mem_cons_self)
    rw [solid]
    split
    · next newline => simp [newline]
    · next single =>
      have other : c ≠ '\n' := fun heq => single (heq ▸ List.mem_cons_self)
      exact iff_of_true rfl ⟨single, c, mem, other⟩

/-- The path is what the pattern prefers. -/
theorem path?_eq_some_iff :
    path? behind = some path ↔ ∃ gap trail, Prefers behind gap path trail := by
  refine ⟨exists_prefers_of_path?, ?_⟩
  rintro ⟨gap, trail, h⟩
  obtain ⟨taken, htaken⟩ := Option.isSome_iff_exists.1 (isSome_path?_of_takes h.takes)
  obtain ⟨gap', trail', h'⟩ := exists_prefers_of_path? htaken
  rw [htaken, h.unique h']

end ScenarioSuite.Capture.Directive
