import ScenarioSuite.Proofs.Visibility
import ScenarioSuite.Suite.Report

/-!
# Scenarios that do not depend on each other

A scenario reads the references of its request and writes the variables of its captures. When
neither of two neighbours writes what the other reads or writes, and the client answers each
request without regard to earlier ones, the neighbours can change places: each comes to the same
report, and the scenarios after them find the same store.

## Main definitions

* `Http.Client.IsStateless`: the reply depends on the request alone.
* `Scenario.captured`: the variables that the captures of a scenario write.
* `Scenario.Independent`: neither scenario writes what the other reads or writes.
* `Runner.Alike`: two runners differ at most in the state of the client.

## Main statements

* `Scenario.get?_after_of_not_mem`: a scenario leaves alone what it does not capture.
* `Scenario.report_eq_report`: a report on an exchange does not depend on the store.
* `Runner.run_swap`: independent neighbours can change places.
-/

namespace ScenarioSuite

variable {σ : Type}

/-- The reply depends on the request alone. -/
def Http.Client.IsStateless (client : Http.Client σ) : Prop :=
  ∀ state state' request, (client.send state request).1 = (client.send state' request).1

theorem Http.Client.isStateless_stateless
    (reply : Http.Request → Except Http.Failure Http.Response) :
    (Http.Client.stateless reply).IsStateless := fun _ _ _ => rfl

/-- Stores with the same values are equal. -/
theorem Store.ext_get? {s t : Store} (h : ∀ x, s.get? x = t.get? x) : s = t := by
  cases s
  cases t
  exact congrArg Store.mk (Dict.ext_get? h)

/-! ## What a scenario writes -/

namespace Capture

theorem last?_eq_none_of_not_mem {history : List Finding} {x : String}
    (h : ∀ e ∈ history, e.directive.variableName ≠ x) : last? history x = none := by
  have none : history.filter (fun e => e.directive.variableName = x) = [] := by
    simpa [List.filter_eq_nil_iff] using h
  rw [last?, none]
  rfl

/-- Of two histories of which one says nothing about a variable the order does not matter. -/
theorem visible_comm (initial : Store) {history later : List Finding} {x : String}
    (h : last? history x = none ∨ last? later x = none) :
    visible initial (history ++ later) x = visible initial (later ++ history) x := by
  unfold visible
  rw [last?_append, last?_append]
  rcases h with h | h <;> simp [h]

end Capture

namespace Scenario

open Capture (Finding last? last?_eq_none_of_not_mem visible)

/-- The variables that the captures of a scenario write. -/
def captured (s : Scenario) : List String :=
  (s.teardown.directives?.getD []).map (·.variableName)

theorem mem_captured_of_mem_executed {s : Scenario} {e : Exchange} {finding : Finding}
    (h : finding ∈ s.teardown.executed e) : finding.directive.variableName ∈ s.captured := by
  unfold Teardown.executed at h
  cases hresponse : e.response? with
  | none => simp [hresponse] at h
  | some response =>
    rw [hresponse] at h
    obtain ⟨d, hd, rfl⟩ := List.mem_map.1 h
    exact List.mem_map_of_mem ((List.takeWhile_sublist _).mem hd)

theorem last?_executed_eq_none {s : Scenario} {x : String} (h : x ∉ s.captured) (e : Exchange) :
    last? (s.teardown.executed e) x = none :=
  last?_eq_none_of_not_mem fun _ hfinding heq => h (heq ▸ mem_captured_of_mem_executed hfinding)

/-- A scenario leaves alone what it does not capture. -/
theorem get?_after_of_not_mem {s : Scenario} (declarative : s.teardown.directives?.isSome)
    {x : String} (h : x ∉ s.captured) (e : Exchange) (store : Store) :
    (s.teardown.after e store).1.get? x = store.get? x := by
  rw [Teardown.get?_after declarative, visible, last?_executed_eq_none h]

theorem Teardown.snd_capture (response : Http.Response) (directives : List Capture.Directive)
    (store store' : Store) :
    (capture response directives store).2 = (capture response directives store').2 := by
  induction directives generalizing store store' with
  | nil => rfl
  | cons d rest ih =>
    unfold capture
    cases Capture.extract response d.selector with
    | error cause => rfl
    | ok value => exact ih _ _

/-- Whether captures fail depends on the response alone. -/
theorem Teardown.snd_after {teardown : Teardown} (declarative : teardown.directives?.isSome)
    (e : Exchange) (store store' : Store) :
    (teardown.after e store).2 = (teardown.after e store').2 := by
  unfold after
  cases e.response? with
  | none => rfl
  | some response =>
    cases teardown with
    | none => rfl
    | captures directives => exact snd_capture response directives store store'
    | action act => cases declarative

theorem report_eq_report {s : Scenario} (declarative : s.teardown.directives?.isSome)
    (e : Exchange) (store store' : Store) : s.report e store = s.report e store' := by
  unfold report
  rw [Teardown.snd_after declarative e store store']

/-- Neither scenario writes what the other reads or writes. -/
structure Independent (base : String) (a b : Scenario) : Prop where
  captured_disjoint : ∀ x ∈ a.captured, x ∉ b.captured
  left_unread : ∀ x ∈ a.captured, x ∉ b.request.references base
  right_unread : ∀ x ∈ b.captured, x ∉ a.request.references base

namespace Independent

variable {base : String} {a b : Scenario}

theorem symm (h : Independent base a b) : Independent base b a where
  captured_disjoint := fun x hb ha => h.captured_disjoint x ha hb
  left_unread := h.right_unread
  right_unread := h.left_unread

theorem last?_executed (h : Independent base a b) (e e' : Exchange) (x : String) :
    last? (a.teardown.executed e) x = none ∨ last? (b.teardown.executed e') x = none := by
  by_cases hx : x ∈ a.captured
  · exact .inr (last?_executed_eq_none (h.captured_disjoint x hx) e')
  · exact .inl (last?_executed_eq_none hx e)

end Independent

end Scenario

namespace Runner

open Scenario (Independent Exchange)

/-! ## Runners that differ in the state of the client -/

/-- The runners differ at most in the state of a client whose replies do not depend on it. -/
structure Alike (r r' : Runner σ) : Prop where
  client : r.client = r'.client
  stateless : r.client.IsStateless
  store : r.store = r'.store
  base : r.base = r'.base

/-- The exchange depends on the references of the request alone. -/
theorem exchange_eq_exchange (r r' : Runner σ) (client : r.client = r'.client)
    (stateless : r.client.IsStateless) (base : r.base = r'.base) {s : Scenario}
    (agree : ∀ x ∈ s.request.references r.base, r.store.get? x = r'.store.get? x) :
    r.exchange s = r'.exchange s := by
  have rendered := (s.request.reads_render r.base).congr r.store r'.store agree
  unfold exchange Scenario.RequestTemplate.exchange
  rw [← client, ← base, ← rendered]
  cases s.request.render r.store r.base with
  | error cause => rfl
  | ok request => exact congrArg (Exchange.sent request) (stateless r.state r'.state request)

theorem Alike.exchange {r r' : Runner σ} (h : r.Alike r') (s : Scenario) :
    r.exchange s = r'.exchange s :=
  exchange_eq_exchange r r' h.client h.stateless h.base fun x _ => by rw [h.store]

theorem Alike.next {r r' : Runner σ} (h : r.Alike r') (s : Scenario) :
    (r.next s).Alike (r'.next s) where
  client := h.client
  stateless := h.stateless
  store := by rw [next_store, next_store, h.exchange s, h.store]
  base := h.base

theorem Alike.run {r r' : Runner σ} (h : r.Alike r') (ss : List Scenario) :
    (r.run ss).1 = (r'.run ss).1 ∧ (r.run ss).2.store = (r'.run ss).2.store := by
  induction ss generalizing r r' with
  | nil => exact ⟨rfl, h.store⟩
  | cons s rest ih =>
    obtain ⟨reports, store⟩ := ih (h.next s)
    rw [run_cons, run_cons, h.exchange s, h.store, reports]
    exact ⟨rfl, store⟩

/-! ## Neighbours -/

variable {r : Runner σ} {a b : Scenario}

/-- A scenario comes to the same exchange before and after an independent one. -/
theorem exchange_next (stateless : r.client.IsStateless)
    (declarative : a.teardown.directives?.isSome) (independent : Independent r.base a b) :
    (r.next a).exchange b = r.exchange b := by
  refine exchange_eq_exchange (r.next a) r rfl stateless rfl fun x hx => ?_
  have unwritten : x ∉ a.captured := fun ha => independent.left_unread x ha hx
  exact Scenario.get?_after_of_not_mem declarative unwritten _ _

/-- The store after two independent scenarios does not depend on their order. -/
theorem alike_next_next (stateless : r.client.IsStateless)
    (ha : a.teardown.directives?.isSome) (hb : b.teardown.directives?.isSome)
    (independent : Independent r.base a b) :
    ((r.next a).next b).Alike ((r.next b).next a) where
  client := rfl
  stateless := stateless
  base := rfl
  store := by
    have left := exchange_next stateless ha independent
    have right := exchange_next stateless hb independent.symm
    have visible_after (x : String) := Capture.visible_comm r.store
      (independent.last?_executed (r.exchange a) (r.exchange b) x)
    refine Store.ext_get? fun x => ?_
    rw [next_store, next_store, left, next_store, next_store, right,
      Scenario.Teardown.get?_after hb, Scenario.Teardown.get?_after ha,
      ← Capture.visible_append (Scenario.Teardown.get?_after ha _ _ x),
      ← Capture.visible_append (Scenario.Teardown.get?_after hb _ _ x), visible_after]

/-- Independent neighbours can change places: every scenario of the suite comes to the same report,
the store is the same in the end, and so is the verdict. -/
theorem run_swap (r : Runner σ) (stateless : r.client.IsStateless) (xs ys : List Scenario)
    (a b : Scenario) (ha : a.teardown.directives?.isSome) (hb : b.teardown.directives?.isSome)
    (independent : Independent r.base a b) :
    ∃ before ofA ofB after,
      before.length = xs.length ∧ after.length = ys.length ∧
      (r.run (xs ++ a :: b :: ys)).1 = before ++ ofA :: ofB :: after ∧
      (r.run (xs ++ b :: a :: ys)).1 = before ++ ofB :: ofA :: after ∧
      (r.run (xs ++ a :: b :: ys)).2.store = (r.run (xs ++ b :: a :: ys)).2.store ∧
      ∀ started finished started' finished',
        (Suite.Report.mk (r.run (xs ++ a :: b :: ys)).1 started finished).isSuccess =
          (Suite.Report.mk (r.run (xs ++ b :: a :: ys)).1 started' finished').isSuccess := by
  obtain ⟨client, base⟩ := r.run_frame xs
  rw [← client] at stateless
  rw [← base] at independent
  have exchangeB := exchange_next stateless ha independent
  have exchangeA := exchange_next stateless hb independent.symm
  obtain ⟨reports, stores⟩ := (alike_next_next stateless ha hb independent).run ys
  rw [run_append, run_append, run_cons, run_cons, run_cons, run_cons, exchangeA, exchangeB]
  -- The report of the later neighbour does not depend on what the earlier one has written.
  have ofB := b.report_eq_report hb ((r.run xs).2.exchange b) ((r.run xs).2.next a).store
    (r.run xs).2.store
  have ofA := a.report_eq_report ha ((r.run xs).2.exchange a) ((r.run xs).2.next b).store
    (r.run xs).2.store
  rw [ofA, ofB]
  refine ⟨_, _, _, _, length_run r xs, length_run _ ys, rfl, by rw [reports], stores, ?_⟩
  intro started finished started' finished'
  simp only [Suite.Report.isSuccess, List.all_append, List.all_cons, reports]
  rw [Bool.and_left_comm (Scenario.Report.isPassed _)]

/-- A capture that finds nothing fails in either place, and what the one before it wrote stays. The
response has two spellings of the header that is captured. -/
theorem run_swap_failingCapture :
    let response :=
      ((Http.Response.ofStatus 200 "" ⟨"", .ofUrl .get ""⟩).addHeader "Id" "7").addHeader "id" "8"
    let client := Http.Client.stateless fun _ => .ok response
    let r := ofStore client () (.ofList [("server", "http://h")])
    let a : Scenario :=
      ⟨"a", .ofUrl .get "/a", [], .captures [⟨"x", .header "id"⟩, ⟨"y", .header "none"⟩]⟩
    let b : Scenario :=
      ⟨"b", .ofUrl .get "/b", [.statusEquals 200], .captures [⟨"z", .header "id"⟩]⟩
    (r.run [a, b]).2.store = (r.run [b, a]).2.store ∧
      (r.run [a, b]).2.store.get? "x" = some "7" ∧
      (r.run [a, b]).1.map (·.isPassed) = [false, true] ∧
      (r.run [b, a]).1.map (·.isPassed) = [true, false] := by
  intro response client r a b
  have independent : Independent r.base a b :=
    ⟨by decide +kernel, by decide +kernel, by decide +kernel⟩
  obtain ⟨_, _, _, _, -, -, -, -, stores, -⟩ :=
    r.run_swap (Http.Client.isStateless_stateless _) [] [] a b rfl rfl independent
  exact ⟨stores, by decide +kernel, by decide +kernel, by decide +kernel⟩

end Runner

end ScenarioSuite
