import ScenarioSuite.Proofs.Segmentation

/-!
# Values without braces

A template may have any stray braces around its placeholders. If the values that are put in are not
empty and have no braces, these stray braces do not come together to a placeholder: two braces that
stand side by side in the result stood side by side in the template, and what closes a placeholder
in the result would have closed one in the template. So the result has no placeholders and
substitution leaves it as it is, whatever the store.

## Main definitions

* `IsPlain`: a value that is not empty and has no braces.
* `Segment.IsPlain`: a segment that has no value, or a plain one.

## Main statements

* `not_marker_flatMap`: no placeholder begins at a literal of the template.
* `splits_flatMap`: the result is made of literals only.
* `placeholders_substitute`: the result of a substitution has no placeholders.
-/

namespace ScenarioSuite.Template

/-- A value that is not empty and has no braces. -/
def IsPlain (value : String) : Prop :=
  value ≠ "" ∧ '\x7b' ∉ value.toList ∧ '\x7d' ∉ value.toList

/-- A segment that has no value, or a plain one. -/
def Segment.IsPlain (value : String → String) : Segment → Prop
  | .literal _ => True
  | .placeholder name => Template.IsPlain (value name)

variable {value : String → String} {text : List Char} {segments : List Segment}

/-- A plain value begins with a character that is no brace. -/
theorem IsPlain.exists_cons {v : String} (h : IsPlain v) :
    ∃ c rest, v.toList = c :: rest ∧ c ≠ '\x7b' ∧ c ≠ '\x7d' := by
  have nonempty : v.toList ≠ [] := by simpa using h.1
  obtain ⟨c, rest, heq⟩ := List.exists_cons_of_ne_nil nonempty
  have mem : c ∈ v.toList := heq ▸ List.mem_cons_self
  exact ⟨c, rest, heq, fun hc => h.2.1 (hc ▸ mem), fun hc => h.2.2 (hc ▸ mem)⟩

/-- A brace in front of the result is a literal in front of the template. -/
theorem exists_literal_of_brace {c : Char} {rest : List Char}
    (plain : ∀ s ∈ segments, s.IsPlain value) (brace : c = '\x7b' ∨ c = '\x7d')
    (h : segments.flatMap (Segment.chars value) = c :: rest) :
    ∃ behind, segments = .literal c :: behind ∧
      behind.flatMap (Segment.chars value) = rest := by
  cases segments with
  | nil => cases h
  | cons segment behind =>
    cases segment with
    | literal d =>
      obtain ⟨rfl, hbehind⟩ := List.cons.inj h
      exact ⟨behind, rfl, hbehind⟩
    | placeholder name =>
      have hname : IsPlain (value name) := plain _ List.mem_cons_self
      obtain ⟨d, v, hv, hopen, hclose⟩ := hname.exists_cons
      rw [List.flatMap_cons, Segment.chars, hv] at h
      obtain ⟨rfl, -⟩ := List.cons.inj h
      exact absurd brace (by simp [hopen, hclose])

/-- Splitting a text into a literal and the rest splits the rest. -/
theorem Splits.of_literal {c : Char} (h : Splits text (.literal c :: segments)) :
    ∃ rest, text = c :: rest ∧ Splits rest segments ∧
      ∀ run behind, ¬ Marker text run behind := by
  cases h with
  | literal absent rest => exact ⟨_, rfl, rest, absent⟩

/-- Where the result goes on to two closing braces without one before them, the template does so
too. A placeholder on the way counts with its own closing braces. -/
theorem exists_run (splits : Splits text segments)
    (plain : ∀ s ∈ segments, s.IsPlain value) {run behind : List Char}
    (h : segments.flatMap (Segment.chars value) = run ++ '\x7d' :: '\x7d' :: behind)
    (inside : ∀ c ∈ run, c ≠ '\x7d') :
    ∃ run' behind', text = run' ++ '\x7d' :: '\x7d' :: behind' ∧ (∀ c ∈ run', c ≠ '\x7d') ∧
      (run' = [] → run = []) := by
  induction splits generalizing run with
  | nil => simp at h
  | @literal c text segments _ rest ih =>
    have later := (List.forall_mem_cons.1 plain).2
    cases run with
    | nil =>
      obtain ⟨rfl, hbehind⟩ := List.cons.inj h
      obtain ⟨last, rfl, -⟩ := exists_literal_of_brace later (.inr rfl) hbehind
      obtain ⟨behind', rfl, -⟩ := rest.of_literal
      exact ⟨[], behind', rfl, by simp, fun _ => rfl⟩
    | cons d run =>
      obtain ⟨rfl, hrun⟩ := List.cons.inj h
      obtain ⟨hc, hinside⟩ := List.forall_mem_cons.1 inside
      obtain ⟨run', behind', rfl, inside', -⟩ := ih later hrun hinside
      exact ⟨c :: run', behind', rfl, List.forall_mem_cons.2 ⟨hc, inside'⟩, by simp⟩
  | @placeholder text name behind' _ marker _ _ =>
    refine ⟨'\x7b' :: '\x7b' :: name, behind', marker.text_eq, ?_, by simp⟩
    simpa using marker.inside

/-- No placeholder begins where the template has a literal: its braces would be literals side by
side, and a placeholder would begin there in the template. -/
theorem not_marker_flatMap {c : Char} (splits : Splits text (.literal c :: segments))
    (plain : ∀ s ∈ segments, s.IsPlain value) (run behind : List Char) :
    ¬ Marker ((Segment.literal c :: segments).flatMap (Segment.chars value)) run behind := by
  intro marker
  obtain ⟨rfl, hsecond⟩ := List.cons.inj marker.text_eq
  obtain ⟨segments, rfl, hrun⟩ := exists_literal_of_brace plain (.inl rfl) hsecond
  obtain ⟨first, rfl, splits, absent⟩ := splits.of_literal
  obtain ⟨second, rfl, splits, -⟩ := splits.of_literal
  obtain ⟨run', behind', rfl, inside, nonempty⟩ :=
    exists_run splits (List.forall_mem_cons.1 plain).2 hrun marker.inside
  exact absent run' behind' ⟨rfl, fun hnil => marker.ne_nil (nonempty hnil), inside⟩

/-- With plain values in place of its placeholders a template is made of literals only. -/
theorem splits_flatMap (splits : Splits text segments)
    (plain : ∀ s ∈ segments, s.IsPlain value) :
    Splits (segments.flatMap (Segment.chars value))
      ((segments.flatMap (Segment.chars value)).map .literal) := by
  induction splits with
  | nil => exact .nil
  | @literal c text segments absent rest ih =>
    have later := (List.forall_mem_cons.1 plain).2
    exact .literal (not_marker_flatMap (.literal absent rest) later) (ih later)
  | @placeholder text run behind segments marker rest ih =>
    obtain ⟨here, later⟩ := List.forall_mem_cons.1 plain
    rw [List.flatMap_cons, Segment.chars, List.map_append]
    -- A value has no opening brace, so nothing begins inside it.
    refine (ih later).append fun before back heq hne run rest marker => ?_
    obtain ⟨c, back, rfl⟩ := List.exists_cons_of_ne_nil hne
    obtain ⟨rfl, -⟩ := List.cons.inj marker.text_eq
    exact here.2.1 (by simp [heq])

/-- If the values of the placeholders are not empty and have no braces, the result of a substitution
has no placeholders, and another substitution leaves it as it is. -/
theorem placeholders_substitute {store : Store} {text out : String}
    (h : substitute store text = .ok out)
    (plain : ∀ x ∈ placeholders text, ∀ v, store.get? x = some v →
      v ≠ "" ∧ '\x7b' ∉ v.toList ∧ '\x7d' ∉ v.toList) :
    placeholders out = [] ∧ hasPlaceholders out = false ∧
      ∀ other : Store, substitute other out = .ok out := by
  let value (x : String) : String := (store.get? x).getD ""
  have bound : ∀ x ∈ placeholders text, store.get? x = some (value x) := by
    intro x hx
    obtain ⟨v, hv⟩ := Option.isSome_iff_exists.1
      (((reads_substitute text).ok_iff store).1 ⟨out, h⟩ x hx)
    simp [value, hv]
  have out_eq : out.toList = (segments text).flatMap (Segment.chars value) := by
    have same := h.symm.trans (substitute_eq_ok bound)
    cases same
    exact String.toList_ofList
  have literals : Splits out.toList (out.toList.map .literal) := by
    rw [out_eq]
    refine splits_flatMap (splits_segmentsOf text.toList) fun s hs => ?_
    cases s with
    | literal c => trivial
    | placeholder name =>
      have listed : name ∈ placeholders text := List.mem_filterMap.2 ⟨_, hs, rfl⟩
      exact plain name listed _ (bound name listed)
  have none : placeholders out = [] := by
    rw [placeholders, segments, ← splits_iff.1 literals]
    simp [Segment.name?]
  refine ⟨none, ?_, substitute_eq_self none⟩
  exact Bool.eq_false_iff.2 fun has => hasPlaceholders_iff.1 has none

/-- Braces of the template on both sides of a value. -/
theorem placeholders_substitute_strayBraces :
    let text := "\x7b\x7bx\x7d\x7b\x7b a \x7d\x7d\x7d\x7b\x7b\x7b\x7ba\x7d"
    let store := Store.ofList [("a", "1")]
    let out := "\x7b\x7bx\x7d1\x7d\x7b\x7b\x7b\x7ba\x7d"
    substitute store text = .ok out ∧ placeholders text = ["a"] ∧
      placeholders out = [] ∧ substitute .empty out = .ok out := by
  intro text store out
  have h : substitute store text = .ok out := toOption_eq_some_iff.1 (by decide +kernel)
  have names : placeholders text = ["a"] := by decide +kernel
  have bound : store.get? "a" = some "1" := by decide +kernel
  obtain ⟨none, -, settled⟩ := placeholders_substitute h fun x hx v hv => by
    obtain rfl : x = "a" := by simpa [names] using hx
    obtain rfl : "1" = v := Option.some.inj (bound.symm.trans hv)
    decide
  exact ⟨h, names, none, settled .empty⟩

/-- An empty value lets the braces on both sides of it come together. -/
example :
    substitute (Store.ofList [("a", "")]) "\x7b\x7bx\x7d\x7b\x7ba\x7d\x7d\x7d" =
      .ok "\x7b\x7bx\x7d\x7d" := by
  decide +kernel

end ScenarioSuite.Template
