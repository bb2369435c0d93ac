import Mathlib.Data.List.TakeWhile
import ScenarioSuite.Proofs.References

/-!
# The segments of a template

A template splits into characters that stand for themselves and placeholders in one way only, be it
read character by character or searched for the leftmost placeholder again and again. A placeholder
begins where two opening braces stand in front of a run of characters that is not empty, has no
closing brace in it and ends at two of them. So at one place there is at most one placeholder, and
its run cannot be longer or shorter. Substitution, the list of names and the test for placeholders
all go by these segments.

## Main definitions

* `Marker`: a placeholder stands at the beginning of a text.
* `Splits`: the segments of a text, place by place.
* `Searches`: the segments of a text, one leftmost placeholder after another.

## Main statements

* `splits_iff`, `searches_iff`: both find the segments of the text and nothing else.
* `substitute_eq_self`: a text without placeholders stays as it is.
* `substitute_splits`: substitution and the names in terms of the segments.
-/

namespace ScenarioSuite.Template

/-! ## Placeholders at the beginning of a text -/

/-- A placeholder with this run of characters between its braces stands at the beginning of a text,
in front of `behind`. The run ends where the first closing brace stands. -/
structure Marker (text run behind : List Char) : Prop where
  text_eq : text = '\x7b' :: '\x7b' :: (run ++ '\x7d' :: '\x7d' :: behind)
  ne_nil : run ≠ []
  inside : ∀ c ∈ run, c ≠ '\x7d'

theorem isInside_iff {c : Char} : isInside c ↔ c ≠ '\x7d' := by
  simp [isInside]

/-- What opens a text is the placeholder that stands there. -/
theorem opening?_eq_some_iff {text run behind : List Char} :
    opening? text = some (run, behind) ↔ Marker text run behind := by
  constructor
  · intro h
    unfold opening? at h
    split at h
    · next rest =>
      split at h
      · next c run' behind' hrun hbehind =>
        cases h
        refine ⟨?_, List.cons_ne_nil _ _, fun d hd => ?_⟩
        · rw [← hrun, ← hbehind, List.takeWhile_append_dropWhile]
        · exact isInside_iff.1 (List.mem_takeWhile_imp (hrun ▸ hd))
      · cases h
    · cases h
  · rintro ⟨rfl, ne_nil, inside⟩
    have inside' : ∀ c ∈ run, isInside c := fun c hc => isInside_iff.2 (inside c hc)
    have stop : isInside '\x7d' = false := by decide
    obtain ⟨c, run, rfl⟩ := List.exists_cons_of_ne_nil ne_nil
    rw [opening?, List.takeWhile_append_of_pos inside', List.dropWhile_append_of_pos inside']
    simp [stop]

theorem opening?_eq_none_iff {text : List Char} :
    opening? text = none ↔ ∀ run behind, ¬ Marker text run behind := by
  simp only [← opening?_eq_some_iff, Option.eq_none_iff_forall_ne_some, Prod.forall, ne_eq]

/-- A placeholder begins with two opening braces. -/
theorem Marker.isPrefix {text run behind : List Char} (h : Marker text run behind) :
    ['\x7b', '\x7b'] <+: text :=
  ⟨_, h.text_eq.symm⟩

/-! ## Scanning place by place -/

/-- The segments of a text: at each place the placeholder that begins there, and the character
itself where none begins. -/
inductive Splits : List Char → List Segment → Prop where
  | nil : Splits [] []
  | literal {c : Char} {text : List Char} {segments : List Segment}
      (absent : ∀ run behind, ¬ Marker (c :: text) run behind) (rest : Splits text segments) :
      Splits (c :: text) (.literal c :: segments)
  | placeholder {text run behind : List Char} {segments : List Segment}
      (marker : Marker text run behind) (rest : Splits behind segments) :
      Splits text (.placeholder (Text.trim (String.ofList run)) :: segments)

theorem trim_ofList (run : List Char) : Text.trim (String.ofList run) = nameOf run := by
  rw [Text.trim, String.toList_ofList, nameOf]

theorem splits_segmentsOf (text : List Char) : Splits text (segmentsOf text) := by
  induction text using segmentsOf.induct with
  | case1 text run behind h _ ih =>
    rw [segmentsOf]
    split
    · next run' behind' h' =>
      cases h.symm.trans h'
      exact trim_ofList run ▸ .placeholder (opening?_eq_some_iff.1 h) ih
    · next h' => simp [h] at h'
  | case2 h =>
    rw [segmentsOf]
    exact .nil
  | case3 c rest h ih =>
    rw [segmentsOf]
    split
    · next h' => simp [h] at h'
    · exact .literal (opening?_eq_none_iff.1 h) ih

/-- A text splits in one way only. -/
theorem Splits.unique {text : List Char} {segments other : List Segment}
    (h : Splits text segments) (h' : Splits text other) : segments = other := by
  induction h generalizing other with
  | nil =>
    cases h' with
    | nil => rfl
    | placeholder marker => cases marker.text_eq
  | literal absent _ ih =>
    cases h' with
    | literal _ rest => rw [ih rest]
    | placeholder marker => exact absurd marker (absent _ _)
  | @placeholder text run behind _ marker _ ih =>
    cases h' with
    | nil => cases marker.text_eq
    | literal absent => exact absurd marker (absent _ _)
    | placeholder marker' rest =>
      have same := (opening?_eq_some_iff.2 marker).symm.trans (opening?_eq_some_iff.2 marker')
      cases same
      rw [ih rest]

theorem splits_iff {text : List Char} {segments : List Segment} :
    Splits text segments ↔ segments = segmentsOf text := by
  constructor
  · exact fun h => h.unique (splits_segmentsOf text)
  · rintro rfl
    exact splits_segmentsOf text

/-- Without a placeholder there are only the characters of the text. -/
theorem Splits.eq_map {text : List Char} {segments : List Segment} (h : Splits text segments)
    (plain : segments.filterMap Segment.name? = []) : segments = text.map .literal := by
  induction h with
  | nil => rfl
  | literal _ _ ih => rw [List.map_cons, ih (by simpa [Segment.name?] using plain)]
  | placeholder => simp [Segment.name?] at plain

/-- Characters at which no placeholder begins stand for themselves. -/
theorem Splits.append {front text : List Char} {segments : List Segment}
    (absent : ∀ before behind, front = before ++ behind → behind ≠ [] →
      ∀ run rest, ¬ Marker (behind ++ text) run rest)
    (h : Splits text segments) : Splits (front ++ text) (front.map .literal ++ segments) := by
  induction front with
  | nil => exact h
  | cons c front ih =>
    refine .literal (absent [] (c :: front) rfl (List.cons_ne_nil _ _)) (ih ?_)
    intro before behind heq
    exact absent (c :: before) behind (by rw [heq, List.cons_append])

/-! ## Searching for the leftmost placeholder -/

/-- The leftmost placeholder of a text, with what stands in front of it and behind it. -/
structure Leftmost (text front run behind : List Char) : Prop where
  found : ∃ rest, text = front ++ rest ∧ Marker rest run behind
  least : ∀ before rest, text = before ++ rest → before.length < front.length →
    ∀ run behind, ¬ Marker rest run behind

/-- The segments of a text, from one leftmost placeholder to the next. -/
inductive Searches : List Char → List Segment → Prop where
  | last {text : List Char}
      (absent : ∀ before rest, text = before ++ rest → ∀ run behind, ¬ Marker rest run behind) :
      Searches text (text.map .literal)
  | next {text front run behind : List Char} {segments : List Segment}
      (leftmost : Leftmost text front run behind) (rest : Searches behind segments) :
      Searches text
        (front.map .literal ++ .placeholder (Text.trim (String.ofList run)) :: segments)

theorem Searches.splits {text : List Char} {segments : List Segment} (h : Searches text segments) :
    Splits text segments := by
  induction h with
  | @last text absent =>
    have all : Splits (text ++ []) (text.map .literal ++ []) :=
      Splits.nil.append fun before behind heq _ run rest => by
        simpa using absent before behind heq run rest
    simpa using all
  | @next text front run behind segments leftmost _ ih =>
    obtain ⟨rest, rfl, marker⟩ := leftmost.found
    refine Splits.append (fun before back heq hne => ?_) (.placeholder marker ih)
    have := List.length_pos_of_ne_nil hne
    exact leftmost.least before (back ++ rest) (by grind) (by grind)

/-- A character at which no placeholder begins does not change what the search finds. -/
theorem Searches.cons {c : Char} {text : List Char} {segments : List Segment}
    (absent : ∀ run behind, ¬ Marker (c :: text) run behind) (h : Searches text segments) :
    Searches (c :: text) (.literal c :: segments) := by
  cases h with
  | last later =>
    refine .last fun before rest heq => ?_
    cases before with
    | nil =>
      obtain rfl : c :: text = rest := heq
      exact absent
    | cons d before => exact later before rest (List.cons.inj heq).2
  | @next _ front run behind segments leftmost rest =>
    have later : Leftmost (c :: text) (c :: front) run behind := by
      refine ⟨?_, fun before back heq hlt => ?_⟩
      · obtain ⟨rest, rfl, marker⟩ := leftmost.found
        exact ⟨rest, rfl, marker⟩
      · cases before with
        | nil =>
          obtain rfl : c :: text = back := heq
          exact absent
        | cons d before =>
          exact leftmost.least before back (List.cons.inj heq).2 (Nat.lt_of_succ_lt_succ hlt)
    exact .next later rest

theorem Splits.searches {text : List Char} {segments : List Segment} (h : Splits text segments) :
    Searches text segments := by
  induction h with
  | nil =>
    refine .last fun before rest heq run behind marker => ?_
    have empty : rest = [] := (List.append_eq_nil_iff.1 heq.symm).2
    cases empty ▸ marker.text_eq
  | literal absent _ ih => exact ih.cons absent
  | @placeholder text run behind segments marker _ ih =>
    have here : Leftmost text [] run behind :=
      ⟨⟨text, rfl, marker⟩, fun before _ _ hlt => absurd hlt (Nat.not_lt_zero _)⟩
    exact .next here ih

/-- Searching for leftmost placeholders finds the same segments as scanning. -/
theorem searches_iff {text : List Char} {segments : List Segment} :
    Searches text segments ↔ segments = segmentsOf text :=
  ⟨fun h => splits_iff.1 h.splits, fun h => (splits_iff.2 h).searches⟩

/-! ## Substitution by segments -/

/-- The characters that a segment stands for when variables have values. -/
def Segment.chars (value : String → String) : Segment → List Char
  | .literal c => [c]
  | .placeholder name => (value name).toList

theorem fill_eq_ok {store : Store} {value : String → String} {segments : List Segment}
    (bound : ∀ x ∈ segments.filterMap Segment.name?, store.get? x = some (value x)) :
    fill store segments = .ok (segments.flatMap (Segment.chars value)) := by
  induction segments with
  | nil => rfl
  | cons segment rest ih =>
    have here : segment.fill store = .ok (segment.chars value) := by
      cases segment with
      | literal c => rfl
      | placeholder name =>
        have get := Store.get_eq_ok_iff.2 (bound name (by simp [Segment.name?]))
        rw [Segment.fill, get]
        rfl
    have behind := ih fun x hx => bound x (by
      obtain ⟨other, hother, hname⟩ := List.mem_filterMap.1 hx
      exact List.mem_filterMap.2 ⟨other, List.mem_cons_of_mem _ hother, hname⟩)
    rw [fill, here, behind]
    rfl

theorem substitute_eq_ok {store : Store} {text : String} {value : String → String}
    (bound : ∀ x ∈ placeholders text, store.get? x = some (value x)) :
    substitute store text =
      .ok (String.ofList ((segments text).flatMap (Segment.chars value))) := by
  rw [substitute_eq_fill, fill_eq_ok bound]
  rfl

theorem flatMap_literal (value : String → String) (text : List Char) :
    (text.map Segment.literal).flatMap (Segment.chars value) = text := by
  induction text with
  | nil => rfl
  | cons c text ih => rw [List.map_cons, List.flatMap_cons, ih]; rfl

/-- A text without placeholders stays as it is. -/
theorem substitute_eq_self {text : String} (plain : placeholders text = []) (store : Store) :
    substitute store text = .ok text := by
  have bound : ∀ x ∈ placeholders text, store.get? x = some (id x) := by simp [plain]
  have literals := (splits_segmentsOf text.toList).eq_map plain
  rw [substitute_eq_ok bound, segments, literals, flatMap_literal, String.ofList_toList]

/-- Where no two opening braces stand side by side there is no placeholder. -/
theorem placeholders_of_not_adjacent {text : String} (h : ¬ ['\x7b', '\x7b'] <:+: text.toList) :
    placeholders text = [] := by
  have literals : Splits text.toList (text.toList.map .literal) := by
    refine (Searches.last fun before rest heq run behind marker => h ?_).splits
    exact heq ▸ marker.isPrefix.isInfix.trans (List.suffix_append before rest).isInfix
  rw [placeholders, segments, ← splits_iff.1 literals]
  simp [Segment.name?]

theorem hasPlaceholders_iff {text : String} : hasPlaceholders text ↔ placeholders text ≠ [] := by
  simp [hasPlaceholders, placeholders, Option.isSome_iff_ne_none, List.filterMap_eq_nil_iff]

/-- The error of a substitution is the first name without a value. -/
theorem substitute_eq_error_iff {store : Store} {text x : String} :
    substitute store text = .error ⟨x⟩ ↔
      ∃ before after, placeholders text = before ++ x :: after ∧
        (∀ y ∈ before, (store.get? y).isSome) ∧ store.get? x = none := by
  rw [(reads_substitute text).error_iff, Store.firstUnbound?_eq_some_iff,
    List.find?_eq_some_iff_append]
  constructor
  · rintro ⟨unbound, before, after, heq, bound⟩
    exact ⟨before, after, heq, by simpa [Option.isSome_iff_ne_none] using bound,
      by simpa using unbound⟩
  · rintro ⟨before, after, heq, bound, unbound⟩
    exact ⟨by simpa using unbound, before, after, heq,
      by simpa [Option.isSome_iff_ne_none] using bound⟩

/-- A template splits in one way only, whether it is scanned or searched. Its names are those of the
placeholders among the segments. Substitution succeeds if and only if all of them have values, and
then gives the literals with these values in between as they are; otherwise it fails on the first
name without a value. A text without two opening braces side by side is given back. -/
theorem substitute_splits (text : String) :
    ∃ segs : List Segment,
      (∀ other, Splits text.toList other ↔ other = segs) ∧
      (∀ other, Searches text.toList other ↔ other = segs) ∧
      placeholders text = segs.filterMap Segment.name? ∧
      (hasPlaceholders text ↔ placeholders text ≠ []) ∧
      ∀ store : Store,
        ((∃ out, substitute store text = .ok out) ↔
          ∀ x ∈ placeholders text, (store.get? x).isSome) ∧
        (∀ value : String → String, (∀ x ∈ placeholders text, store.get? x = some (value x)) →
          substitute store text = .ok (String.ofList (segs.flatMap (Segment.chars value)))) ∧
        (∀ x, substitute store text = .error ⟨x⟩ ↔
          ∃ before after, placeholders text = before ++ x :: after ∧
            (∀ y ∈ before, (store.get? y).isSome) ∧ store.get? x = none) ∧
        (¬ ['\x7b', '\x7b'] <:+: text.toList → substitute store text = .ok text) := by
  refine ⟨segments text, fun _ => splits_iff, fun _ => searches_iff, rfl, hasPlaceholders_iff,
    fun store => ⟨(reads_substitute text).ok_iff store, fun _ => substitute_eq_ok,
      fun _ => substitute_eq_error_iff, fun absent => ?_⟩⟩
  exact substitute_eq_self (placeholders_of_not_adjacent absent) store

/-- Braces that overlap, that are closed by one brace only, that are empty or not closed at all. -/
theorem substitute_splits_overlapping :
    let text := "\x7b\x7b\x7ba\x7d\x7d|\x7b\x7ba \x7b\x7bb\x7d\x7d|" ++
      "\x7b\x7bx\x7d\x7b\x7b\na \x7d\x7d\x7d|\x7b\x7b\x7d\x7d|\x7b\x7ba"
    let store := Store.ofList [("\x7ba", "1"), ("a \x7b\x7bb", "\x7b\x7ba\x7d\x7d"), ("a", "")]
    placeholders text = ["\x7ba", "a \x7b\x7bb", "a"] ∧
      substitute store text =
        .ok "1|\x7b\x7ba\x7d\x7d|\x7b\x7bx\x7d\x7d|\x7b\x7b\x7d\x7d|\x7b\x7ba" ∧
      substitute .empty text = .error ⟨"\x7ba"⟩ := by
  intro text store
  obtain ⟨segs, split, -, names, -, h⟩ := substitute_splits text
  have segs_eq : segs = segmentsOf text.toList := splits_iff.1 ((split segs).2 rfl)
  have placeholders_eq : placeholders text = ["\x7ba", "a \x7b\x7bb", "a"] := by
    rw [names, segs_eq]
    decide +kernel
  let value (x : String) : String := (store.get? x).getD ""
  have bound : ∀ x ∈ placeholders text, store.get? x = some (value x) := by
    rw [placeholders_eq]
    decide +kernel
  refine ⟨placeholders_eq, ?_, ?_⟩
  · rw [(h store).2.1 value bound, segs_eq]
    decide +kernel
  · exact ((h .empty).2.2.1 _).2 ⟨[], _, placeholders_eq, by simp, rfl⟩

end ScenarioSuite.Template
