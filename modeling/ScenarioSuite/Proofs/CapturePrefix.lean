import ScenarioSuite.Proofs.Commutation
import ScenarioSuite.Proofs.Seeding

/-!
# Captures up to the first that finds nothing

A teardown carries out its captures in order and stops at the first that finds nothing. What the
captures before it have found is in the store, the later of two values for one variable, and the
error is about the capture it stopped at. All this depends on the response alone, so to carry out
the teardown on the same response once more changes nothing.

## Main definitions

* `Capture.Finds`: a capture finds a value for its variable.
* `Capture.firstMissing`: the index of the first capture that finds nothing.
* `Scenario.Teardown.Complaint`: an error that is about a capture which finds nothing.

## Main statements

* `Scenario.Teardown.exists_capture`: what captures write and report, whatever the store.
* `Scenario.Teardown.run_captures`: what a teardown leaves, and that it is stable.
-/

namespace ScenarioSuite

/-- Pairs that are put into a store a second time change nothing. -/
theorem Store.seed_seed (s : Store) (pairs : List (String × String)) :
    (s.seed pairs).seed pairs = s.seed pairs := by
  apply Store.ext_get?
  intro x
  rw [get?_seed, get?_seed, ← Option.or_assoc, Option.or_self]

namespace Capture

/-- A capture finds a value for its variable. -/
structure Finds (response : Http.Response) (d : Directive) (binding : String × String) : Prop where
  name : binding.1 = d.variableName
  value : extract response d.selector = .ok binding.2

/-- The index of the first capture that finds nothing; the number of captures if there is none. -/
def firstMissing (response : Http.Response) (directives : List Directive) : Nat :=
  directives.findIdx fun d => !(extract response d.selector).isOk

variable {response : Http.Response} {d : Directive}

theorem firstMissing_cons_of_error {cause : ExtractionError}
    (h : extract response d.selector = .error cause) (rest : List Directive) :
    firstMissing response (d :: rest) = 0 := by
  simp [firstMissing, List.findIdx_cons, h, Except.isOk, Except.toBool]

theorem firstMissing_cons_of_ok {value : String} (h : extract response d.selector = .ok value)
    (rest : List Directive) :
    firstMissing response (d :: rest) = firstMissing response rest + 1 := by
  simp [firstMissing, List.findIdx_cons, h, Except.isOk, Except.toBool]

/-- Only a place in the body can be a missing field, and the error names its path. -/
theorem selector_of_missingField {s : Selector} {path : String}
    (h : extract response s = .error (.missingField path)) : s = .body path := by
  cases s with
  | header name =>
    rw [extract] at h
    split at h <;> cases h
  | body other =>
    rw [extract] at h
    split at h
    · cases h
    · rw [extractFrom] at h
      split at h <;> cases h <;> rfl

/-- The names of captures and of the values that they find are the same. -/
theorem map_fst_of_finds {directives : List Directive} {bindings : List (String × String)}
    (h : List.Forall₂ (Finds response) directives bindings) :
    bindings.map (·.1) = directives.map (·.variableName) := by
  induction h with
  | nil => rfl
  | cons first _ ih => rw [List.map_cons, List.map_cons, first.name, ih]

end Capture

namespace Scenario.Teardown

open Capture (Directive ExtractionError Finds extract firstMissing firstMissing_cons_of_error
  firstMissing_cons_of_ok map_fst_of_finds selector_of_missingField)

variable {response : Http.Response} {d : Directive}

/-- An error that is about a capture which finds nothing: it names the variable, and the path if the
body has nothing there, else the cause. -/
inductive Complaint (response : Http.Response) (d : Directive) : TeardownError → Prop where
  | missingField {path : String} (selector : d.selector = .body path)
      (h : extract response d.selector = .error (.missingField path)) :
      Complaint response d (.missingField d.variableName path)
  | extraction {cause : ExtractionError} (other : ∀ path, cause ≠ .missingField path)
      (h : extract response d.selector = .error cause) :
      Complaint response d (.extraction d.variableName cause)

theorem complaint_ofExtraction {cause : ExtractionError}
    (h : extract response d.selector = .error cause) :
    Complaint response d (.ofExtraction d.variableName cause) := by
  cases cause with
  | missingField path => exact .missingField (selector_of_missingField h) h
  | missingHeader name => exact .extraction (fun path heq => by cases heq) h
  | badBody message => exact .extraction (fun path heq => by cases heq) h

/-- What captures write and report does not depend on the store: the values in front of the first
that finds nothing, and an error about that one. -/
theorem exists_capture (response : Http.Response) (directives : List Directive) :
    ∃ bindings error?,
      List.Forall₂ (Finds response) (directives.take (firstMissing response directives)) bindings ∧
      (∀ store, capture response directives store = (store.seed bindings, error?)) ∧
      ((firstMissing response directives = directives.length ∧ error? = Option.none) ∨
        ∃ d error, directives[firstMissing response directives]? = some d ∧
          error? = some error ∧ Complaint response d error) := by
  induction directives with
  | nil => exact ⟨[], Option.none, .nil, fun store => rfl, .inl ⟨rfl, rfl⟩⟩
  | cons d rest ih =>
    cases h : extract response d.selector with
    | error cause =>
      rw [firstMissing_cons_of_error h]
      refine ⟨[], some (.ofExtraction d.variableName cause), .nil, ?_, .inr ?_⟩
      · intro store
        rw [capture, h, Store.seed_nil]
      · exact ⟨d, _, rfl, rfl, complaint_ofExtraction h⟩
    | ok value =>
      obtain ⟨bindings, error?, found, carried, stop⟩ := ih
      rw [firstMissing_cons_of_ok h]
      refine ⟨(d.variableName, value) :: bindings, error?, .cons ⟨rfl, h⟩ found, ?_, ?_⟩
      · intro store
        rw [capture, h, Store.seed_cons]
        exact carried _
      · rwa [List.length_cons, Nat.add_right_cancel_iff, List.getElem?_cons_succ]

/-- What a teardown with captures leaves. The captures before the first that finds nothing have
given their variables the values that they found, in order, and no other variable has changed. There
is no error if all find something, and otherwise one about the capture that found nothing. The same
teardown on the same response leaves all of this as it is. -/
theorem run_captures (response : Http.Response) (directives : List Directive) (store : Store) :
    let k := firstMissing response directives
    let result := (captures directives).run response store
    (∃ bindings, List.Forall₂ (Finds response) (directives.take k) bindings ∧
      result.1 = store.seed bindings ∧
      ∀ x, result.1.get? x = (lastValue? x bindings).or (store.get? x)) ∧
    (∀ x, x ∉ (directives.take k).map (·.variableName) → result.1.get? x = store.get? x) ∧
    (result.2 = Option.none ↔ k = directives.length) ∧
    (∀ d ∈ directives[k]?, ∃ error, result.2 = some error ∧ Complaint response d error) ∧
    (captures directives).run response result.1 = result := by
  intro k result
  obtain ⟨bindings, error?, found, carried, stop⟩ := exists_capture response directives
  have result_eq : result = (store.seed bindings, error?) := carried store
  have sees (x : String) : result.1.get? x = (lastValue? x bindings).or (store.get? x) := by
    rw [result_eq]
    exact store.get?_seed bindings x
  refine ⟨⟨bindings, found, congrArg Prod.fst result_eq, sees⟩, ?_, ?_, ?_, ?_⟩
  · intro x hx
    rw [← map_fst_of_finds found] at hx
    rw [sees, lastValue?_eq_none hx, Option.none_or]
  · rw [result_eq]
    rcases stop with ⟨all, rfl⟩ | ⟨d, error, hd, rfl, -⟩
    · exact iff_of_true rfl all
    · have before : k < directives.length := (List.getElem?_eq_some_iff.1 hd).1
      exact iff_of_false (Option.some_ne_none error) (Nat.ne_of_lt before)
  · intro d hd
    rcases stop with ⟨all, -⟩ | ⟨d', error, hd', rfl, complaint⟩
    · exact absurd all (Nat.ne_of_lt (List.getElem?_eq_some_iff.1 hd).1)
    · cases Option.some.inj (hd'.symm.trans hd)
      exact ⟨error, congrArg Prod.snd result_eq, complaint⟩
  · rw [result_eq]
    exact (carried _).trans (by rw [store.seed_seed])

/-- Two values for one variable, one of them from a header, in front of a field that is null. -/
theorem run_captures_null :
    let response := (Http.Response.ofJson 200 (.object [("a", .string "1"), ("b", .null)])
      ⟨"", .ofUrl .get ""⟩).addHeader "ID" "2"
    let directives : List Directive :=
      [⟨"x", .body "$.a"⟩, ⟨"x", .header "id"⟩, ⟨"y", .body "$.b"⟩, ⟨"z", .body "$.a"⟩]
    let result := (captures directives).run response (.ofList [("y", "0")])
    result.1.get? "x" = some "2" ∧ result.1.get? "y" = some "0" ∧
      result.2 = some (.missingField "y" "$.b") ∧
      (captures directives).run response result.1 = result := by
  intro response directives result
  obtain ⟨-, frame, -, stop, again⟩ := run_captures response directives (.ofList [("y", "0")])
  have index : firstMissing response directives = 2 := by decide +kernel
  rw [index] at frame stop
  have kept : result.1.get? "y" = some "0" := frame "y" (by decide)
  have missing : extract response (.body "$.b") = .error (.missingField "$.b") := by decide +kernel
  obtain ⟨error, herror, complaint⟩ := stop _ rfl
  refine ⟨by decide +kernel, kept, ?_, again⟩
  cases complaint with
  | missingField selector h => cases selector; exact herror
  | extraction other h => exact absurd (Except.error.inj (h.symm.trans missing)) (other _)

end Scenario.Teardown

end ScenarioSuite
