import Mathlib.Data.List.Forall2
import ScenarioSuite.Capture.Extraction
import ScenarioSuite.Proofs.DirectiveText
import ScenarioSuite.Proofs.JsonText
import ScenarioSuite.Scenario.Assertion

/-!
# Locations in a body

An assertion and a capture may name a place in the body of a response by the same text. The capture
keeps a selector, the assertion writes the selector's text and reads it again. Both come to the
steps that the text spells as it stands, however much of the dollar sign, the dot and the blanks
around it is left out, so they look at the same place. They treat what they find there differently
in one case: null is a value to an assertion and counts as missing to a capture.

## Main definitions

* `Json.Equal`: equality of values.

## Main statements

* `Json.same_iff`: the comparison of values decides equality.
* `Selector.steps_text_ofText`: the text of a selector spells the steps of the text it is read from.
* `Scenario.check_extract`: what assertions and captures find at a path.
-/

namespace ScenarioSuite

/-! ## Equality of values -/

namespace Json

/-- Equality of values: the same items in order, and equal values under the same names. Integers and
real numbers are never equal, and real numbers are compared as such, so the sign of a zero does not
matter. -/
@[mk_iff]
inductive Equal : Json → Json → Prop where
  | null : Equal .null .null
  | bool (b : Bool) : Equal (.bool b) (.bool b)
  | integer (n : Int) : Equal (.number (.integer n)) (.number (.integer n))
  | real {x y : Float} (h : x == y) : Equal (.number (.real x)) (.number (.real y))
  | string (s : String) : Equal (.string s) (.string s)
  | array {as bs : List Json} (h : List.Forall₂ Equal as bs) : Equal (.array as) (.array bs)
  | object {as bs : List (String × Json)} (names : as.map (·.1) = bs.map (·.1))
      (h : List.Forall₂ Equal (as.map (·.2)) (bs.map (·.2))) : Equal (.object as) (.object bs)

mutual

/-- The comparison of values decides equality. -/
theorem same_iff : ∀ {a b : Json}, a.same b ↔ a.Equal b
  | .null, b => by
    rw [equal_iff]
    cases b <;> simp [same]
  | .bool a, b => by
    rw [equal_iff]
    cases b <;> simp [same, @eq_comm _ a]
  | .number (.integer m), b => by
    rw [equal_iff]
    cases b with
    | number n => cases n <;> simp [same, Number.same, @eq_comm _ m]
    | _ => simp [same]
  | .number (.real x), b => by
    rw [equal_iff]
    cases b with
    | number n => cases n <;> simp [same, Number.same]
    | _ => simp [same]
  | .string a, b => by
    rw [equal_iff]
    cases b <;> simp [same, @eq_comm _ a]
  | .array as, b => by
    rw [equal_iff]
    cases b <;> simp [same, sameItems_iff]
  | .object as, b => by
    rw [equal_iff]
    cases b <;> simp [same, sameMembers_iff]

theorem sameItems_iff : ∀ {as bs : List Json}, sameItems as bs ↔ List.Forall₂ Equal as bs
  | [], bs => by cases bs <;> simp [sameItems]
  | a :: as, bs => by cases bs <;> simp [sameItems, same_iff, sameItems_iff]

theorem sameMembers_iff : ∀ {as bs : List (String × Json)}, sameMembers as bs ↔
    as.map (·.1) = bs.map (·.1) ∧ List.Forall₂ Equal (as.map (·.2)) (bs.map (·.2))
  | [], bs => by cases bs <;> simp [sameMembers]
  | (k, a) :: as, bs => by
    cases bs <;> simp [sameMembers, same_iff, sameMembers_iff, and_assoc, and_left_comm]

end

end Json

/-! ## Spellings of a path -/

open Text (isBlank dropAround)

namespace Json.Path

/-- A dot in front parts nothing. -/
theorem stepsFrom_dropOne (cs : List Char) : stepsFrom [] (dropOne '.' cs) = stepsFrom [] cs := by
  fun_cases dropOne '.' cs with
  | case1 rest => simp [stepsFrom, fieldOf]
  | case2 => rfl
  | case3 => rfl

end Json.Path

namespace Selector

open Json.Path (steps dropOne stepsFrom stepsFrom_dropOne)

theorem steps_text_ofTrimmed {cs : List Char} (bare : dropAround isBlank cs = cs)
    (h : ¬ headerMark <+: cs) :
    steps (ofTrimmed cs).text = stepsFrom [] (dropOne '.' (dropOne '$' cs)) := by
  unfold ofTrimmed
  rw [if_neg (mt List.isPrefixOf_iff_prefix.1 h), steps]
  split
  · rw [text, Json.Path.body, String.toList_ofList, bare]
  · have dollar := Text.dropAround_cons_of_neg (c := '$') (by decide) bare
    rw [text, Json.Path.body, String.toList_ofList, dollar]
    rfl
  next hdollar _ =>
    have dot := Text.dropAround_cons_of_neg (c := '.') (by decide) bare
    have dollar := Text.dropAround_cons_of_neg (c := '$') (by decide) dot
    have same : dropOne '$' cs = cs := by
      fun_cases dropOne '$' cs <;> grind
    rw [text, Json.Path.body, String.toList_ofList, dollar, same]
    exact (stepsFrom_dropOne cs).symm

variable {path : String}

/-- The text of a selector spells the steps of the text it is read from. -/
theorem steps_text_ofText (h : ¬ headerMark <+: (Text.trim path).toList) :
    steps (ofText path).text = steps path := by
  rw [Text.trim, String.toList_ofList] at h
  exact steps_text_ofTrimmed Text.dropAround_dropAround h

theorem ofText_eq_body (h : ¬ headerMark <+: (Text.trim path).toList) :
    ofText path = .body (ofText path).text := by
  rw [Text.trim, String.toList_ofList] at h
  obtain ⟨front, -, -, heq⟩ := ofTrimmed_of_not_header (mt List.isPrefixOf_iff_prefix.1 h)
  rw [ofText, heq, text]

end Selector

/-! ## Assertions and captures -/

/-- A plain value sent as a body is found there. -/
theorem Http.Response.json_ofJson {status : Nat} {body : Json} {request : Http.Labelled}
    (plain : Json.Plain Json.Reader.depthLimit body) :
    (Http.Response.ofJson status body request).json = .ok body :=
  (Json.parseBytes_encode body.render).trans (Json.parse_render plain)

namespace Scenario

open Assertion (checkProperty pathOf)
open Json.Path (steps)

variable {response : Http.Response} {path : String} {body : Json}

theorem check_hasProperty (hbody : response.json = .ok body) :
    (Assertion.hasProperty path).check response = none ↔ (body.at? (pathOf path)).isSome := by
  simp only [Assertion.check, checkProperty, hbody]
  cases body.at? (pathOf path) <;> simp

theorem check_propertyEquals {w : Json} (hbody : response.json = .ok body) :
    (Assertion.propertyEquals path w).check response = none ↔
      ∃ x, body.at? (pathOf path) = some x ∧ x.Equal w := by
  simp only [Assertion.check, checkProperty, hbody]
  cases body.at? (pathOf path) with
  | none => simp
  | some x => simp [Json.same_iff]

theorem extract_ofText (h : ¬ Selector.headerMark <+: (Text.trim path).toList)
    (hbody : response.json = .ok body) :
    Capture.extract response (.ofText path) = Capture.extractFrom body (pathOf path) := by
  rw [Selector.ofText_eq_body h, Capture.extract, hbody]
  rfl

/-- An assertion and a capture that name a place of the body by the same text find the same there:
no body to look into, no such place, or one value. Only null is treated differently. -/
theorem check_extract (response : Http.Response) (path : String)
    (h : ¬ "headers.".toList <+: (Text.trim path).toList) :
    (∃ e, response.json = .error e ∧
      (Assertion.hasProperty path).check response ≠ none ∧
      (∀ w, (Assertion.propertyEquals path w).check response ≠ none) ∧
      Capture.extract response (.ofText path) = .error (.badBody e.message)) ∨
    (∃ body, response.json = .ok body ∧ Json.follow? (steps path) body = none ∧
      (Assertion.hasProperty path).check response ≠ none ∧
      (∀ w, (Assertion.propertyEquals path w).check response ≠ none) ∧
      Capture.extract response (.ofText path) =
        .error (.missingField (Selector.ofText path).text)) ∨
    (∃ body x, response.json = .ok body ∧ Json.follow? (steps path) body = some x ∧
      (Assertion.hasProperty path).check response = none ∧
      (∀ w, (Assertion.propertyEquals path w).check response = none ↔ x.Equal w) ∧
      Capture.extract response (.ofText path) =
        match x with
        | .null => .error (.missingField (Selector.ofText path).text)
        | .string s => .ok s
        | x => .ok x.render) := by
  cases hbody : response.json with
  | error e =>
    left
    refine ⟨e, rfl, ?_, fun w => ?_, ?_⟩
    · simp [Assertion.check, checkProperty, hbody]
    · simp [Assertion.check, checkProperty, hbody]
    · rw [Selector.ofText_eq_body h, Capture.extract, hbody]
  | ok body =>
    right
    have place : body.at? (pathOf path) = Json.follow? (steps path) body := by
      rw [Json.at?, pathOf, Selector.steps_text_ofText h]
    have found := extract_ofText h hbody
    rw [Capture.extractFrom, place] at found
    cases hx : Json.follow? (steps path) body with
    | none =>
      left
      refine ⟨body, rfl, hx, ?_, fun w => ?_, ?_⟩
      · simp [check_hasProperty hbody, place, hx]
      · simp [check_propertyEquals hbody, place, hx]
      · rw [found, hx, pathOf]
    | some x =>
      right
      refine ⟨body, x, rfl, hx, ?_, fun w => ?_, ?_⟩
      · simp [check_hasProperty hbody, place, hx]
      · simp [check_propertyEquals hbody, place, hx]
      · rw [found, hx]
        cases x <;> rfl

theorem check_extract_brackets :
    let path := " .a['b'][ 0 ]"
    let body : Json := .object [("a", .object [("b", .array [.string "v", .null])])]
    let response := Http.Response.ofJson 200 body ⟨"", .ofUrl .get ""⟩
    ¬ "headers.".toList <+: (Text.trim path).toList ∧
      (Assertion.hasProperty path).check response = none ∧
      (∀ w, (Assertion.propertyEquals path w).check response = none ↔
        (Json.string "v").Equal w) ∧
      Capture.extract response (.ofText path) = .ok "v" := by
  intro path body response
  have hbody : response.json = .ok body := by
    refine Http.Response.json_ofJson (.object (List.pairwise_singleton ..) ?_)
    refine List.forall_mem_singleton.2 (.object (List.pairwise_singleton ..) ?_)
    refine List.forall_mem_singleton.2 (.array ?_)
    simp [Json.Plain.string, Json.Plain.null]
  have hsteps : steps path = [.field "a", .field "b", .index 0] := by decide +kernel
  have hplace : Json.follow? (steps path) body = some (.string "v") := by
    rw [hsteps]
    rfl
  have h : ¬ "headers.".toList <+: (Text.trim path).toList := by decide +kernel
  rcases check_extract response path h with ⟨e, he, -⟩ | ⟨_, hb, hnone, -⟩ |
    ⟨_, x, hb, hx, property, equals, found⟩
  · rw [hbody] at he
    cases he
  · rw [hbody] at hb
    cases hb
    rw [hplace] at hnone
    cases hnone
  · rw [hbody] at hb
    cases hb
    obtain rfl : Json.string "v" = x := Option.some.inj (hplace.symm.trans hx)
    exact ⟨h, property, equals, found⟩

end Scenario

end ScenarioSuite
