import ScenarioSuite.Proofs.Exchange
import ScenarioSuite.Suite.Runner

/-!
# Runs of several scenarios

A runner takes its scenarios one after another, and it can be asked to run lists of scenarios
several times. Nothing but the store and the state of the client passes from one scenario to the
next, so several lists are run as one, and a run is determined by what each scenario finds at its
setup.

## Main definitions

* `Runner.before`: the runner as a scenario finds it.
* `Runner.runEach`: runs several lists of scenarios.
* `Runner.sent`: the requests that the client is sent during a run.

## Main statements

* `Runner.run_append`: a run of two lists is a run of the first and one of the second.
* `Runner.getElem?_run`: the report of a scenario follows from what it finds.
* `Runner.runEach_eq`: several lists are run as one.
* `Runner.run_recording`: a client that keeps its requests is treated as the client itself.
-/

namespace ScenarioSuite.Runner

open Scenario (Exchange Report)

variable {σ : Type}

/-! ## One scenario -/

/-- What comes of the request of a scenario. -/
def exchange (r : Runner σ) (s : Scenario) : Exchange :=
  (s.request.exchange r.client r.base r.store r.state).1

/-- The runner after a scenario. -/
def next (r : Runner σ) (s : Scenario) : Runner σ :=
  { r with
    store := (s.teardown.after (r.exchange s) r.store).1
    state := (s.request.exchange r.client r.base r.store r.state).2 }

@[simp] theorem next_client (r : Runner σ) (s : Scenario) : (r.next s).client = r.client := rfl

@[simp] theorem next_base (r : Runner σ) (s : Scenario) : (r.next s).base = r.base := rfl

@[simp] theorem next_store (r : Runner σ) (s : Scenario) :
    (r.next s).store = (s.teardown.after (r.exchange s) r.store).1 := rfl

theorem runOne_eq (r : Runner σ) (s : Scenario) :
    r.runOne s = (s.report (r.exchange s) r.store, r.next s) := by
  rw [runOne, s.run_eq]
  rfl

/-! ## Many scenarios -/

@[simp] theorem run_nil (r : Runner σ) : r.run [] = ([], r) := rfl

theorem run_cons (r : Runner σ) (s : Scenario) (rest : List Scenario) :
    r.run (s :: rest) =
      (s.report (r.exchange s) r.store :: ((r.next s).run rest).1, ((r.next s).run rest).2) := by
  rw [run, runOne_eq]

theorem run_append (r : Runner σ) (xs ys : List Scenario) :
    r.run (xs ++ ys) =
      ((r.run xs).1 ++ ((r.run xs).2.run ys).1, ((r.run xs).2.run ys).2) := by
  induction xs generalizing r with
  | nil => rfl
  | cons s rest ih => simp only [List.cons_append, run_cons, ih]

theorem length_run (r : Runner σ) (ss : List Scenario) : (r.run ss).1.length = ss.length := by
  induction ss generalizing r with
  | nil => rfl
  | cons s rest ih => rw [run_cons, List.length_cons, ih, List.length_cons]

theorem exists_eq_report_of_mem_run {r : Runner σ} {ss : List Scenario} {report : Report}
    (h : report ∈ (r.run ss).1) : ∃ s e store, report = Scenario.report s e store := by
  induction ss generalizing r with
  | nil => cases h
  | cons s rest ih =>
    rw [run_cons] at h
    rcases List.mem_cons.1 h with rfl | h
    · exact ⟨s, r.exchange s, r.store, rfl⟩
    · exact ih h

/-- The client and the base variable stay the same. -/
theorem run_frame (r : Runner σ) (ss : List Scenario) :
    (r.run ss).2.client = r.client ∧ (r.run ss).2.base = r.base := by
  induction ss generalizing r with
  | nil => exact ⟨rfl, rfl⟩
  | cons s rest ih =>
    have later := ih (r.next s)
    rw [next_client, next_base] at later
    rw [run_cons]
    exact later

/-- The runner as the scenario at a place of the list finds it at its setup. -/
def before (r : Runner σ) (ss : List Scenario) (k : Nat) : Runner σ :=
  (r.run (ss.take k)).2

/-- The report of a scenario follows from what the scenario finds. -/
theorem getElem?_run (r : Runner σ) (ss : List Scenario) (k : Nat) :
    (r.run ss).1[k]? = ss[k]?.map fun s => ((r.before ss k).runOne s).1 := by
  induction ss generalizing r k with
  | nil => rfl
  | cons s rest ih =>
    rw [run_cons]
    cases k with
    | zero => simp [before, runOne_eq]
    | succ k =>
      rw [List.getElem?_cons_succ, List.getElem?_cons_succ, ih]
      simp [before, run_cons]

/-- Between two scenarios those are run that stand between them. -/
theorem before_eq_run (r : Runner σ) (ss : List Scenario) {j k : Nat} (h : j ≤ k) :
    r.before ss k = ((r.before ss j).run ((ss.take k).drop j)).2 := by
  have split := List.take_append_drop j (ss.take k)
  rw [List.take_take, Nat.min_eq_left h] at split
  calc r.before ss k
    _ = (r.run (ss.take j ++ (ss.take k).drop j)).2 := by rw [split, before]
    _ = ((r.before ss j).run ((ss.take k).drop j)).2 := by rw [run_append, before]

/-! ## Several lists -/

/-- Runs lists of scenarios one after another. -/
def runEach (r : Runner σ) : List (List Scenario) → List (List Report) × Runner σ
  | [] => ([], r)
  | ss :: rest =>
    let (reports, r) := r.run ss
    let (more, r) := r.runEach rest
    (reports :: more, r)

/-- Several lists are run as one. -/
theorem runEach_eq (r : Runner σ) (calls : List (List Scenario)) :
    (r.runEach calls).1.flatten = (r.run calls.flatten).1 ∧
      (r.runEach calls).2 = (r.run calls.flatten).2 := by
  induction calls generalizing r with
  | nil => exact ⟨rfl, rfl⟩
  | cons ss rest ih =>
    obtain ⟨reports, after⟩ := ih (r.run ss).2
    rw [List.flatten_cons, run_append]
    exact ⟨congrArg ((r.run ss).1 ++ ·) reports, after⟩

/-! ## Requests -/

/-- The runner with a client that keeps what it is sent, the latest in front. -/
def recording (r : Runner σ) (earlier : List Http.Request) : Runner (σ × List Http.Request) :=
  ⟨r.client.recording, (r.state, earlier), r.store, r.base⟩

/-- The requests that the client is sent during a run, in order. -/
def sent (r : Runner σ) : List Scenario → List Http.Request
  | [] => []
  | s :: rest => (r.exchange s).request?.toList ++ (r.next s).sent rest

theorem recording_exchange (r : Runner σ) (earlier : List Http.Request) (s : Scenario) :
    (r.recording earlier).exchange s = r.exchange s := by
  have exchanged := s.request.exchange_recording r.client r.base r.store r.state earlier
  simp only [exchange, recording, exchanged]

theorem recording_next (r : Runner σ) (earlier : List Http.Request) (s : Scenario) :
    (r.recording earlier).next s =
      (r.next s).recording ((r.exchange s).request?.toList ++ earlier) := by
  have exchanged := s.request.exchange_recording r.client r.base r.store r.state earlier
  simp only [next, recording_exchange]
  simp only [recording, exchanged, exchange]

/-- A client that keeps its requests is treated as the client itself, and is sent the requests of
the run. -/
theorem run_recording (r : Runner σ) (earlier : List Http.Request) (ss : List Scenario) :
    (r.recording earlier).run ss =
      ((r.run ss).1, (r.run ss).2.recording ((r.sent ss).reverse ++ earlier)) := by
  induction ss generalizing r earlier with
  | nil => rfl
  | cons s rest ih =>
    have order : ((r.exchange s).request?.toList ++ (r.next s).sent rest).reverse =
        ((r.next s).sent rest).reverse ++ (r.exchange s).request?.toList := by
      rw [List.reverse_append]
      cases (r.exchange s).request? <;> rfl
    rw [run_cons, run_cons, recording_exchange, recording_next, ih, sent, order, List.append_assoc]
    rfl

end ScenarioSuite.Runner
