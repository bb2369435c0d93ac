import ScenarioSuite.Proofs.Rendering
import ScenarioSuite.Proofs.Segmentation
import ScenarioSuite.Proofs.Trimming

/-!
# Relative addresses

A relative address stands for the same address behind a placeholder of the base variable. The run of
this placeholder ends at its own braces, because the name of the variable has no closing brace in
it, so the segments of the two parts stand side by side, whatever braces the address has. Both ways
then read the base variable first and the address after it.

## Main definitions

* `RequestTemplate.joinBase`: an address behind a placeholder.

## Main statements

* `Template.substitute_placeholder_append`: a placeholder and the text behind it.
* `RequestTemplate.renderUrl_relative`: a relative address is rendered as the joined one.
-/

namespace ScenarioSuite

namespace Template

/-- In front of a text a placeholder does not change the segments of the text. -/
theorem segmentsOf_placeholder_append {run behind : List Char} (ne_nil : run ≠ [])
    (closing : '\x7d' ∉ run) :
    segmentsOf ('\x7b' :: '\x7b' :: (run ++ '\x7d' :: '\x7d' :: behind)) =
      .placeholder (nameOf run) :: segmentsOf behind := by
  have marker : Marker ('\x7b' :: '\x7b' :: (run ++ '\x7d' :: '\x7d' :: behind)) run behind :=
    ⟨rfl, ne_nil, fun c hc heq => closing (heq ▸ hc)⟩
  have splits := Splits.placeholder marker (splits_segmentsOf behind)
  rw [trim_ofList] at splits
  exact (splits_iff.1 splits).symm

/-- A placeholder and the text behind it are substituted one after the other. -/
theorem substitute_placeholder_append {name : String} (ne_empty : name ≠ "")
    (bare : Text.trim name = name) (closing : '\x7d' ∉ name.toList) (store : Store)
    (text : String) :
    substitute store ("\x7b\x7b" ++ name ++ "\x7d\x7d" ++ text) = do
      return (← store.get name) ++ (← substitute store text) := by
  have chars : ("\x7b\x7b" ++ name ++ "\x7d\x7d" ++ text).toList =
      '\x7b' :: '\x7b' :: (name.toList ++ '\x7d' :: '\x7d' :: text.toList) := by
    simp
  have ne_nil : name.toList ≠ [] := mt String.toList_eq_nil_iff.1 ne_empty
  have named : nameOf name.toList = name := bare
  rw [substitute_eq_fill, segments, chars, segmentsOf_placeholder_append ne_nil closing, named,
    fill, Segment.fill, substitute_eq_fill, segments]
  cases store.get name with
  | error e => rfl
  | ok value =>
    cases fill store (segmentsOf text.toList) with
    | error e => rfl
    | ok rest => exact congrArg Except.ok (by simp)

end Template

namespace Scenario.RequestTemplate

open Template (substitute substitute_placeholder_append)
open Text (isBlank dropAround)

/-- A value that does not end in a slash is put in front of a path as it is. -/
theorem baseOf_eq_self {value : String} (h : value.toList.getLast? ≠ some '/') :
    baseOf value = value := by
  have same : Text.dropEndWhile (· == '/') value.toList = value.toList := by
    refine List.rdropWhile_eq_self_iff.2 fun ne_nil slash => h ?_
    rw [List.getLast?_eq_some_getLast ne_nil, eq_of_beq slash]
  rw [baseOf, same, String.ofList_toList]

/-- An address without blanks around it, behind a placeholder of the base variable. -/
def joinBase (base url : String) : String :=
  "\x7b\x7b" ++ base ++ "\x7d\x7d" ++ url

/-- A joined address begins with a brace and ends as the address does. -/
theorem trim_joinBase (base : String) {url : String} (relative : isRelative (Text.trim url)) :
    Text.trim (joinBase base (Text.trim url)) = joinBase base (Text.trim url) := by
  have chars : (joinBase base (Text.trim url)).toList =
      '\x7b' :: ('\x7b' :: base.toList ++ ['\x7d', '\x7d']) ++ dropAround isBlank url.toList := by
    simp [joinBase, Text.toList_trim]
  have bare : dropAround isBlank (joinBase base (Text.trim url)).toList =
      (joinBase base (Text.trim url)).toList := by
    rw [chars]
    refine Text.dropAround_eq_self ?_ fun c hc => ?_
    · rintro c ⟨⟩
      decide
    · rw [isRelative, Text.toList_trim, beq_iff_eq] at relative
      obtain ⟨rest, hrest⟩ := List.head?_eq_some_iff.1 relative
      have last : c ∈ (dropAround isBlank url.toList).getLast? := by
        rw [List.getLast?_append, hrest] at hc
        rw [hrest]
        simpa [List.getLast?_cons] using hc
      exact Text.not_of_mem_getLast?_dropAround last
  rw [Text.trim, bare, String.ofList_toList]

theorem isRelative_joinBase (base url : String) : isRelative (joinBase base url) = false := by
  simp [isRelative, joinBase]

/-- A relative address is the same as the address behind a placeholder of the base variable, if the
value of this variable does not end in a slash. What substitution gives for the joined text is what
rendering gives for the address, be it a text or an error, and a template may be written either way.
-/
theorem renderUrl_relative {base url : String} {store : Store} (ne_empty : base ≠ "")
    (bare : Text.trim base = base) (closing : '\x7d' ∉ base.toList)
    (relative : isRelative (Text.trim url))
    (slash : ∀ value, store.get? base = some value → value.toList.getLast? ≠ some '/') :
    renderUrl store base url = substitute store (joinBase base (Text.trim url)) ∧
    ∀ t : RequestTemplate, t.url = url →
      (∀ request, t.render store base = .ok request →
        substitute store (joinBase base (Text.trim url)) = .ok request.url) ∧
      (∀ e, substitute store (joinBase base (Text.trim url)) = .error e →
        t.render store base = .error e) ∧
      t.render store base =
        { t with url := joinBase base (Text.trim url) }.render store base := by
  have same : renderUrl store base url = substitute store (joinBase base (Text.trim url)) := by
    rw [joinBase, substitute_placeholder_append ne_empty bare closing, renderUrl, renderTrimmedUrl,
      if_pos relative]
    cases hvalue : store.get base with
    | error e => rfl
    | ok value =>
      rw [ok_bind, ok_bind, baseOf_eq_self (slash value (Store.get_eq_ok_iff.1 hvalue))]
  have joined : renderUrl store base (joinBase base (Text.trim url)) =
      substitute store (joinBase base (Text.trim url)) := by
    rw [renderUrl, trim_joinBase base relative, renderTrimmedUrl, isRelative_joinBase,
      if_neg Bool.false_ne_true]
  refine ⟨same, fun t ht => ⟨fun request h => ?_, fun e h => ?_, ?_⟩⟩
  · rw [← same, ← ht]
    exact (parts_of_render h).1
  · rw [render_eq, ht, same, h, error_bind]
  · rw [render_eq, render_eq, ht, same, joined]

/-- The name of the base variable has a brace in it, its value looks like a placeholder, and the
address has stray braces, refers to the base variable again and ends in another variable, which has
an empty value in the one store and none in the other. -/
theorem renderUrl_relative_strayBraces :
    let url := " \t/\x7d\x7d\x7b\x7bx\x7d\x7b\x7b \x7ba \x7d\x7d\x7b\x7bq\x7d\x7d "
    let joined :=
      "\x7b\x7b\x7ba\x7d\x7d/\x7d\x7d\x7b\x7bx\x7d\x7b\x7b \x7ba \x7d\x7d\x7b\x7bq\x7d\x7d"
    let value := "\x7b\x7bq\x7d\x7d/h"
    let both := Store.ofList [("\x7ba", value), ("q", "")]
    let one := Store.ofList [("\x7ba", value)]
    joinBase "\x7ba" (Text.trim url) = joined ∧
      substitute both joined = .ok (value ++ "/\x7d\x7d\x7b\x7bx\x7d" ++ value) ∧
      renderUrl both "\x7ba" url = substitute both joined ∧
      substitute one joined = .error ⟨"q"⟩ ∧
      (ofUrl .get url).render one "\x7ba" = .error ⟨"q"⟩ := by
  intro url joined value both one
  have trimmed : joinBase "\x7ba" (Text.trim url) = joined := by decide +kernel
  have filled : substitute both joined = .ok (value ++ "/\x7d\x7d\x7b\x7bx\x7d" ++ value) := by
    decide +kernel
  have unbound : substitute one joined = .error ⟨"q"⟩ := by decide +kernel
  have relative : isRelative (Text.trim url) := by decide +kernel
  have bare : Text.trim "\x7ba" = "\x7ba" := by decide +kernel
  have slash : ∀ store ∈ [both, one], ∀ v, store.get? "\x7ba" = some v →
      v.toList.getLast? ≠ some '/' := by
    intro store hstore v hv
    have bound : ∀ store ∈ [both, one], store.get? "\x7ba" = some value := by decide +kernel
    obtain rfl : value = v := Option.some.inj ((bound store hstore).symm.trans hv)
    decide
  obtain ⟨same, -⟩ :=
    renderUrl_relative (by decide) bare (by decide) relative (slash both (by simp))
  obtain ⟨-, templates⟩ :=
    renderUrl_relative (by decide) bare (by decide) relative (slash one (by simp))
  rw [trimmed] at same templates
  exact ⟨trimmed, filled, same, unbound, (templates (ofUrl .get url) rfl).2.1 _ unbound⟩

end Scenario.RequestTemplate

end ScenarioSuite
