import ScenarioSuite.Proofs.Rendering
import ScenarioSuite.Proofs.Sequence

/-!
# What a scenario sees

A scenario finds in the store what the earlier ones have captured. For each variable the last
capture that was carried out counts, and the store at the beginning if there was none. A capture
is carried out if there was a response, complete or broken off, and neither it nor one before it
failed to find its value; what the checks said does not matter.

## Main definitions

* `Capture.executed`: the captures that are carried out on a response.
* `Capture.visible`: the value of a variable after some captures.
* `Runner.history`: the captures that are carried out during a run.

## Main statements

* `Runner.get?_store_run`: the store after a run holds what is visible after its history.
* `Runner.runEach_visibility`: what each scenario of a run sees, and which setups fail.
-/

namespace ScenarioSuite

/-! ## Captures on a response -/

namespace Capture

/-- A capture that was carried out. -/
structure Finding where
  directive : Directive
  response : Http.Response

/-- The value that was captured. -/
def Finding.value? (e : Finding) : Option String :=
  (extract e.response e.directive.selector).toOption

/-- The captures that are carried out on a response: those before the first that finds nothing. -/
def executed (response : Http.Response) (directives : List Directive) : List Finding :=
  (directives.takeWhile fun d => (extract response d.selector).isOk).map (⟨·, response⟩)

/-- The last capture for a variable. -/
def last? (history : List Finding) (x : String) : Option Finding :=
  (history.filter fun e => e.directive.variableName = x).getLast?

/-- The value of a variable after captures: that of the last one for it, or the one before them. -/
def visible (initial : Store) (history : List Finding) (x : String) : Option String :=
  match last? history x with
  | some e => e.value?
  | none => initial.get? x

theorem isSome_value?_of_mem_executed {response : Http.Response} {directives : List Directive}
    {e : Finding} (h : e ∈ executed response directives) : e.value?.isSome := by
  obtain ⟨d, hd, rfl⟩ := List.mem_map.1 h
  have found := List.all_eq_true.1 List.all_takeWhile d hd
  unfold Finding.value?
  cases hvalue : extract response d.selector with
  | error cause => simp [hvalue, Except.isOk, Except.toBool] at found
  | ok value => rfl

theorem last?_append (history later : List Finding) (x : String) :
    last? (history ++ later) x = (last? later x).or (last? history x) := by
  rw [last?, List.filter_append, List.getLast?_append]
  rfl

/-- Later captures start from what is visible after the earlier ones. -/
theorem visible_append {initial store : Store} {history : List Finding} {x : String}
    (h : store.get? x = visible initial history x) (later : List Finding) :
    visible initial (history ++ later) x = visible store later x := by
  unfold visible
  rw [last?_append, h]
  cases last? later x <;> rfl

theorem visible_singleton (store : Store) (e : Finding) {value : String}
    (h : e.value? = some value) (x : String) :
    visible store [e] x = (store.set e.directive.variableName value).get? x := by
  rw [Store.get?_set]
  by_cases heq : x = e.directive.variableName
  · simp [visible, last?, heq, h]
  · simp [visible, last?, heq, Ne.symm heq]

/-- Captures take no value away. -/
theorem isSome_visible {initial : Store} {history : List Finding} {x : String}
    (found : ∀ e ∈ history, e.value?.isSome) (bound : (initial.get? x).isSome) :
    (visible initial history x).isSome := by
  unfold visible
  cases h : last? history x with
  | none => exact bound
  | some e => exact found e (List.mem_filter.1 (List.mem_of_getLast? h)).1

end Capture

/-! ## Teardowns -/

namespace Scenario

open Capture (Directive Finding executed extract visible visible_append visible_singleton)

/-- The captures of a teardown that is no action of its own. -/
def Teardown.directives? : Teardown → Option (List Directive)
  | .none => some []
  | .captures directives => some directives
  | .action _ => Option.none

/-- The captures that a teardown carries out after an exchange. -/
def Teardown.executed (teardown : Teardown) (e : Exchange) : List Finding :=
  match e.response? with
  | .none => []
  | .some response => Capture.executed response (teardown.directives?.getD [])

/-- Captures leave what is visible after those that are carried out. -/
theorem Teardown.get?_capture (response : Http.Response) (directives : List Directive)
    (store : Store) (x : String) :
    (capture response directives store).1.get? x =
      visible store (Capture.executed response directives) x := by
  induction directives generalizing store with
  | nil => rfl
  | cons d rest ih =>
    cases h : extract response d.selector with
    | error cause =>
      have carried : Capture.executed response (d :: rest) = [] := by
        simp [Capture.executed, h, Except.isOk, Except.toBool]
      rw [carried, capture, h]
      rfl
    | ok value =>
      have captured : Finding.value? ⟨d, response⟩ = some value := toOption_eq_some_iff.2 h
      have first := visible_singleton store ⟨d, response⟩ captured x
      have carried : Capture.executed response (d :: rest) =
          [⟨d, response⟩] ++ Capture.executed response rest := by
        simp [Capture.executed, h, Except.isOk, Except.toBool]
      rw [carried, visible_append first.symm, ← ih, capture, h]

theorem Teardown.get?_after {teardown : Teardown} (declarative : teardown.directives?.isSome)
    (e : Exchange) (store : Store) (x : String) :
    (teardown.after e store).1.get? x = visible store (teardown.executed e) x := by
  unfold after executed
  cases e.response? with
  | none => rfl
  | some response =>
    cases teardown with
    | none => rfl
    | captures directives => exact get?_capture response directives store x
    | action act => cases declarative

end Scenario

/-! ## Runs -/

namespace Runner

open Capture (Finding visible visible_append)
open Scenario (Exchange)

variable {σ : Type}

/-- The captures that are carried out during a run, in order. -/
def history (r : Runner σ) : List Scenario → List Finding
  | [] => []
  | s :: rest => s.teardown.executed (r.exchange s) ++ (r.next s).history rest

theorem isSome_value?_of_mem_history {r : Runner σ} {ss : List Scenario} {e : Finding}
    (h : e ∈ r.history ss) : e.value?.isSome := by
  induction ss generalizing r with
  | nil => cases h
  | cons s rest ih =>
    rcases List.mem_append.1 h with now | later
    · unfold Scenario.Teardown.executed at now
      cases hresponse : (r.exchange s).response? with
      | none => simp [hresponse] at now
      | some response =>
        rw [hresponse] at now
        exact Capture.isSome_value?_of_mem_executed now
    · exact ih later

/-- The store after a run holds what is visible after its history. -/
theorem get?_store_run (r : Runner σ) {ss : List Scenario}
    (declarative : ∀ s ∈ ss, s.teardown.directives?.isSome) (x : String) :
    (r.run ss).2.store.get? x = visible r.store (r.history ss) x := by
  induction ss generalizing r with
  | nil => rfl
  | cons s rest ih =>
    have now : (r.next s).store.get? x = visible r.store (s.teardown.executed (r.exchange s)) x :=
      Scenario.Teardown.get?_after (declarative s List.mem_cons_self) _ _ x
    rw [run_cons, history, visible_append now]
    exact ih (r.next s) fun s hs => declarative s (List.mem_cons_of_mem _ hs)

theorem isSome_get?_store_run (r : Runner σ) {ss : List Scenario}
    (declarative : ∀ s ∈ ss, s.teardown.directives?.isSome) {x : String}
    (bound : (r.store.get? x).isSome) : ((r.run ss).2.store.get? x).isSome := by
  rw [get?_store_run r declarative]
  exact Capture.isSome_visible (fun _ => isSome_value?_of_mem_history) bound

/-- Setup fails for the first reference without a value and for nothing else. -/
theorem setupError_runOne (r : Runner σ) (s : Scenario) :
    (r.runOne s).1.setupError = r.store.firstUnbound? (s.request.references r.base) := by
  rw [runOne_eq, Scenario.setupError_report]
  refine Option.ext fun cause => ?_
  rw [Exchange.unbound?_eq_some_iff, exchange, Scenario.RequestTemplate.exchange_eq_unrendered_iff]
  exact (s.request.reads_render r.base).error_iff r.store cause

/-- What each scenario of a run sees. A variable has the value of the last capture for it that an
earlier scenario carried out, or the one it had at the beginning. Setup fails for the first
reference without a value, so never for a variable that an earlier scenario or the scenario itself
has found bound. -/
theorem runEach_visibility (r : Runner σ) (calls : List (List Scenario))
    (declarative : ∀ s ∈ calls.flatten, s.teardown.directives?.isSome)
    (k : Nat) (s : Scenario) (hs : calls.flatten[k]? = some s) :
    ∃ report, (r.runEach calls).1.flatten[k]? = some report ∧
      report = ((r.before calls.flatten k).runOne s).1 ∧
      (∀ x, (r.before calls.flatten k).store.get? x =
        visible r.store (r.history (calls.flatten.take k)) x) ∧
      (∀ e ∈ r.history (calls.flatten.take k), e.value?.isSome) ∧
      (∀ x, report.setupError = some ⟨x⟩ ↔
        (s.request.references r.base).find?
          (fun y => (visible r.store (r.history (calls.flatten.take k)) y).isNone) = some x) ∧
      ∀ j ≤ k, ∀ x, ((r.before calls.flatten j).store.get? x).isSome →
        report.setupError ≠ some ⟨x⟩ := by
  have earlier : ∀ s ∈ calls.flatten.take k, s.teardown.directives?.isSome :=
    fun s hs => declarative s (List.mem_of_mem_take hs)
  have sees (x) : (r.before calls.flatten k).store.get? x =
      visible r.store (r.history (calls.flatten.take k)) x := r.get?_store_run earlier x
  have base : (r.before calls.flatten k).base = r.base := (r.run_frame _).2
  refine ⟨_, ?_, rfl, sees, fun _ => isSome_value?_of_mem_history, ?_, ?_⟩
  · rw [(r.runEach_eq calls).1, getElem?_run, hs]
    rfl
  · intro x
    rw [setupError_runOne, base, Store.firstUnbound?_eq_some_iff]
    simp only [sees]
  · intro j hj x bound failed
    rw [setupError_runOne, Store.firstUnbound?_eq_some_iff] at failed
    have unbound := List.find?_some failed
    have between : ∀ s ∈ (calls.flatten.take k).drop j, s.teardown.directives?.isSome :=
      fun s hs => earlier s (List.mem_of_mem_drop hs)
    have kept := (r.before calls.flatten j).isSome_get?_store_run between bound
    rw [← r.before_eq_run calls.flatten hj, Option.isSome_iff_ne_none] at kept
    exact kept (Option.isNone_iff_eq_none.1 unbound)

/-- A value from a response that broke off is there for the next scenario. -/
theorem runEach_visibility_brokenOff :
    let response := (Http.Response.ofStatus 500 "" ⟨"", .ofUrl .post ""⟩).addHeader "id" "7"
    let client := Http.Client.stateless fun _ => .error (.incomplete "" response)
    let r := ofStore client () (.ofList [("server", "http://h")])
    let create : Scenario := ⟨"create", .ofUrl .post "/orgs", [], .captures [⟨"id", .header "ID"⟩]⟩
    let read := Scenario.ofRequest "read" (.ofUrl .get "/orgs/\x7b\x7bid\x7d\x7d")
    (r.before [create, read] 1).store.get? "id" = some "7" ∧
      ∃ report, (r.runEach [[create], [read]]).1.flatten[1]? = some report ∧
        report.setupError ≠ some ⟨"id"⟩ := by
  intro response client r create read
  have declarative : ∀ s ∈ [create, read], s.teardown.directives?.isSome := by
    simp [create, read, Scenario.ofRequest, Scenario.Teardown.directives?]
  obtain ⟨report, found, -, sees, -, -, bound⟩ :=
    r.runEach_visibility [[create], [read]] declarative 1 read rfl
  have captured : visible r.store (r.history [create]) "id" = some "7" := by
    decide +kernel
  have value := (sees "id").trans captured
  refine ⟨value, report, found, bound 1 (Nat.le_refl _) "id" ?_⟩
  rw [value]
  rfl

end Runner

end ScenarioSuite
