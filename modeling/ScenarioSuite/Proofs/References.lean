import ScenarioSuite.Proofs.Outcome
import ScenarioSuite.Template.Substitution

/-!
# What substitution reads

A computation that reads variables in a fixed order fails on the first of them without a value. If
it does nothing else with the store, its result depends on the values of these variables alone.
Substitution is such a computation, in a text and in the texts of a JSON value.

## Main definitions

* `Store.firstUnbound?`: the first of some names that has no value.
* `Store.Reads`: a computation reads names in order and nothing else.

## Main statements

* `Store.Reads.bind`: one computation after another reads the names of both.
* `Template.reads_substitute`, `Template.reads_substituteJson`.
-/

namespace ScenarioSuite

/-! ## Computations that read names -/

namespace Store

variable {α β : Type}

/-- The first of some names that has no value. -/
def firstUnbound? (s : Store) (names : List String) : Option Unbound :=
  (names.find? fun x => (s.get? x).isNone).map Unbound.mk

@[simp] theorem firstUnbound?_nil (s : Store) : s.firstUnbound? [] = none := rfl

@[simp] theorem firstUnbound?_singleton (s : Store) (x : String) :
    s.firstUnbound? [x] = if (s.get? x).isNone then some ⟨x⟩ else none := by
  cases h : s.get? x <;> simp [firstUnbound?, h]

theorem firstUnbound?_append (s : Store) (xs ys : List String) :
    s.firstUnbound? (xs ++ ys) = (s.firstUnbound? xs).or (s.firstUnbound? ys) := by
  cases h : xs.find? fun x => (s.get? x).isNone <;> simp [firstUnbound?, List.find?_append, h]

theorem firstUnbound?_eq_none_iff {s : Store} {names : List String} :
    s.firstUnbound? names = none ↔ ∀ x ∈ names, (s.get? x).isSome := by
  simp [firstUnbound?, Option.isSome_iff_ne_none]

theorem firstUnbound?_eq_some_iff {s : Store} {names : List String} {x : String} :
    s.firstUnbound? names = some ⟨x⟩ ↔
      (names.find? fun y => (s.get? y).isNone) = some x := by
  simp [firstUnbound?]

/-- A computation reads names in order: it fails on the first of them without a value and on
nothing else, and its result depends on their values alone. -/
structure Reads (names : List String) (f : Store → Except Unbound α) : Prop where
  error_iff (s : Store) (e : Unbound) : f s = .error e ↔ s.firstUnbound? names = some e
  congr (s t : Store) (agree : ∀ x ∈ names, s.get? x = t.get? x) : f s = f t

namespace Reads

variable {names names' : List String} {f : Store → Except Unbound α}
  {g : α → Store → Except Unbound β}

theorem ok (a : α) : Reads [] fun _ => .ok a := ⟨by simp, fun _ _ _ => rfl⟩

theorem get (name : String) : Reads [name] fun s => s.get name := by
  refine ⟨fun s e => ?_, fun s t agree => ?_⟩
  · rw [get_eq_error_iff, firstUnbound?_singleton]
    cases s.get? name <;> simp [eq_comm]
  · simp [Store.get, agree name (by simp)]

theorem firstUnbound?_eq_none (hf : Reads names f) {s : Store} {a : α} (h : f s = .ok a) :
    s.firstUnbound? names = none := by
  cases unbound : s.firstUnbound? names with
  | none => rfl
  | some e => simp [(hf.error_iff s e).2 unbound] at h

/-- The second computation is reached only if the first one finds all its names. -/
theorem bind (hf : Reads names f) (hg : ∀ a, Reads names' (g a)) :
    Reads (names ++ names') fun s => f s >>= fun a => g a s := by
  refine ⟨fun s e => ?_, fun s t agree => ?_⟩
  · rw [bind_eq_error_iff, firstUnbound?_append]
    cases h : f s with
    | error e' => simp [(hf.error_iff s e').1 h]
    | ok a => simp [hf.firstUnbound?_eq_none h, (hg a).error_iff s e]
  · show f s >>= _ = f t >>= _
    rw [hf.congr s t fun x hx => agree x (List.mem_append_left _ hx)]
    cases f t with
    | error e => rfl
    | ok a => exact (hg a).congr s t fun x hx => agree x (List.mem_append_right _ hx)

theorem map (hf : Reads names f) (h : α → β) : Reads names fun s => h <$> f s := by
  have reads := hf.bind fun a => ok (h a)
  rw [List.append_nil] at reads
  exact reads

/-- A computation succeeds if and only if every name that it reads has a value. -/
theorem ok_iff (hf : Reads names f) (s : Store) :
    (∃ a, f s = .ok a) ↔ ∀ x ∈ names, (s.get? x).isSome := by
  rw [← firstUnbound?_eq_none_iff]
  cases h : f s with
  | ok a => simp [hf.firstUnbound?_eq_none h]
  | error e => simp [(hf.error_iff s e).1 h]

end Reads

end Store

/-! ## Substitution -/

namespace Template

open Store (Reads)

theorem reads_fill (segments : List Segment) :
    Reads (segments.filterMap Segment.name?) fun s => fill s segments := by
  induction segments with
  | nil => exact .ok []
  | cons segment rest ih =>
    cases segment with
    | literal c => exact ih.map ([c] ++ ·)
    | placeholder name =>
      exact ((Reads.get name).map String.toList).bind fun value => ih.map (value ++ ·)

/-- Substitution in a text reads its placeholders from left to right. -/
theorem reads_substitute (text : String) :
    Reads (placeholders text) fun s => substitute s text := by
  simp only [substitute_eq_fill]
  exact (reads_fill (segments text)).map String.ofList

mutual

/-- Substitution in a JSON value reads the placeholders of its texts in document order. -/
theorem reads_substituteJson : ∀ value : Json,
    Reads (references value) fun s => substituteJson s value
  | .string text => (reads_substitute text).map Json.string
  | .array items => (reads_substituteItems items).map Json.array
  | .object members => (reads_substituteMembers members).map Json.object
  | .null => .ok _
  | .bool _ => .ok _
  | .number _ => .ok _

theorem reads_substituteItems : ∀ items : List Json,
    Reads (referencesOfItems items) fun s => substituteItems s items
  | [] => .ok []
  | item :: rest =>
    (reads_substituteJson item).bind fun value => (reads_substituteItems rest).map (value :: ·)

theorem reads_substituteMembers : ∀ members : List (String × Json),
    Reads (referencesOfMembers members) fun s => substituteMembers s members
  | [] => .ok []
  | (name, value) :: rest =>
    (reads_substituteJson value).bind fun value =>
      (reads_substituteMembers rest).map ((name, value) :: ·)

end

end Template

end ScenarioSuite
