import Mathlib.Data.List.Forall2
import ScenarioSuite.Proofs.Sequence

/-!
# Checks change nothing but their own results

The exchange depends on the request of a scenario and the store afterwards on its teardown, neither
on the name nor on the checks. Two runs of scenarios that differ in nothing else therefore stay in
the same state, although their reports may differ from the first scenario on. The client is any
state machine; the order in which a response lists its headers is part of what it replies.

## Main definitions

* `Scenario.SameActions`: two scenarios differ in their names and checks only.
* `Report.SameEffects`: two reports agree on everything but names, checks and what follows from
  them.

## Main statements

* `Runner.run_sameActions`: the same requests, the same store, and the same effects.
-/

namespace ScenarioSuite

namespace Scenario

/-- The scenarios do the same: they differ at most in their names and their checks. -/
structure SameActions (a b : Scenario) : Prop where
  request : a.request = b.request
  teardown : a.teardown = b.teardown

/-- The reports agree on what the scenarios did. -/
structure Report.SameEffects (a b : Report) : Prop where
  setupError : a.setupError = b.setupError
  transportError : a.transportError = b.transportError
  teardownError : a.teardownError = b.teardownError
  status : a.status = b.status

/-- After one exchange, scenarios that do the same have the same effects. -/
theorem SameActions.report {a b : Scenario} (h : a.SameActions b) (e : Exchange) (store : Store) :
    (a.report e store).SameEffects (b.report e store) := by
  refine ⟨rfl, rfl, ?_, rfl⟩
  rw [teardownError_report, teardownError_report, h.teardown]

end Scenario

namespace Runner

open Scenario (SameActions)
open Scenario.Report (SameEffects)

variable {σ : Type} (r : Runner σ)

theorem exchange_congr {a b : Scenario} (h : a.SameActions b) : r.exchange a = r.exchange b := by
  rw [exchange, exchange, h.request]

theorem next_congr {a b : Scenario} (h : a.SameActions b) : r.next a = r.next b := by
  rw [next, next, r.exchange_congr h, h.request, h.teardown]

theorem run_congr {as bs : List Scenario} (h : List.Forall₂ SameActions as bs) :
    r.sent as = r.sent bs ∧ (r.run as).2 = (r.run bs).2 ∧
      List.Forall₂ SameEffects (r.run as).1 (r.run bs).1 := by
  induction h generalizing r with
  | nil => exact ⟨rfl, rfl, .nil⟩
  | @cons a b as bs same _ ih =>
    obtain ⟨requests, after, effects⟩ := ih (r.next b)
    have head : (a.report (r.exchange b) r.store).SameEffects (b.report (r.exchange b) r.store) :=
      same.report _ _
    rw [run_cons, run_cons, sent, sent, r.exchange_congr same, r.next_congr same]
    exact ⟨congrArg (_ ++ ·) requests, after, .cons head effects⟩

/-- Two runs of scenarios that do the same end with the same store and the same state of the
client, also if the client keeps what it is sent: it is sent the same requests in the same order.
Their reports agree scenario by scenario on what was done. -/
theorem run_sameActions {as bs : List Scenario} (h : List.Forall₂ SameActions as bs) :
    (∀ earlier, ((r.recording earlier).run as).2 = ((r.recording earlier).run bs).2) ∧
      (r.run as).2 = (r.run bs).2 ∧ List.Forall₂ SameEffects (r.run as).1 (r.run bs).1 := by
  obtain ⟨requests, after, effects⟩ := r.run_congr h
  refine ⟨fun earlier => ?_, after, effects⟩
  rw [run_recording, run_recording, requests, after]

/-- A check fails before a token is captured that the request after it needs. It changes nothing of
what is sent and captured. -/
theorem run_sameActions_failingCheck :
    let response (token : String) :=
      (Http.Response.ofStatus 500 "" ⟨"", .ofUrl .get ""⟩).addHeader "token" token
    -- The client hands out one token after the other.
    let client : Http.Client (List String) := ⟨fun tokens _ => match tokens with
      | [] => (.error .timeout, [])
      | token :: rest => (.ok (response token), rest)⟩
    let r := ofStore client ["a", "b"] .empty
    let login : Scenario :=
      ⟨"login", .ofUrl .post "http://h/", [], .captures [⟨"token", .header "token"⟩]⟩
    let checked : Scenario := { login with name := "checked", assertions := [.statusEquals 200] }
    let use : Scenario := ⟨"use", .ofUrl .get "http://h/{{token}}", [],
      .captures [⟨"next", .header "token"⟩]⟩
    (r.run [login, use]).1.map (·.outcome) = [.passed, .passed] ∧
      (r.run [checked, use]).1.map (·.outcome) = [.failed .assert, .passed] ∧
      ((r.recording []).run [login, use]).2 = ((r.recording []).run [checked, use]).2 ∧
      ((r.recording []).run [checked, use]).2.state =
        ([], [.ofUrl .get "http://h/a", .ofUrl .post "http://h/"]) ∧
      (r.run [checked, use]).2.store = .ofList [("token", "a"), ("next", "b")] := by
  intro response client r login checked use
  refine ⟨by decide +kernel, by decide +kernel, ?_, by decide +kernel, by decide +kernel⟩
  have same : SameActions login checked := ⟨rfl, rfl⟩
  have unchanged : SameActions use use := ⟨rfl, rfl⟩
  exact (r.run_sameActions (.cons same (.cons unchanged .nil))).1 []

end Runner

end ScenarioSuite
