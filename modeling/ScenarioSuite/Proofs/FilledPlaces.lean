import ScenarioSuite.Proofs.Segmentation
import ScenarioSuite.Proofs.WrittenPaths

/-!
# Places in a filled value

Substitution in a JSON value changes its texts and nothing else, so a path leads to a place in the
filled value if and only if it leads to one in the template, and what stands there is what the
template has there, filled. This is shown for one step, since a member keeps its name and an item
its index, and then for the steps of a path. Filling goes through the texts in document order and
stops at the first of them that has a variable without a value.

## Main definitions

* `Template.texts`: the texts of a value in document order.

## Main statements

* `Template.rel_step?`, `Template.rel_follow?`: one step into a value and its filled form, and any
  number of them.
* `Template.substituteJson_eq_error_iff`: the first text that cannot be filled is the error.
* `Template.at?_substituteJson`: filling and looking up can be done in either order.
-/

namespace ScenarioSuite

/-- Computations for the elements of a list, one after another, read the names of all of them. -/
theorem Store.Reads.mapM {α β : Type} {names : α → List String} {f : α → Store → Except Unbound β}
    (hf : ∀ x, Reads (names x) (f x)) (xs : List α) :
    Reads (xs.flatMap names) fun s => xs.mapM fun x => f x s := by
  induction xs with
  | nil => exact .ok []
  | cons x xs ih =>
    simp only [List.mapM_cons, List.flatMap_cons]
    exact (hf x).bind fun b => ih.map (b :: ·)

namespace Template

open Json (step? follow?)
open Json.Path (Step)

variable {store : Store}

/-! ## Steps into a filled value -/

theorem rel_item? {items items' : List Json} (h : substituteItems store items = .ok items')
    (n : Nat) :
    Option.Rel (fun x y => substituteJson store x = .ok y) items[n]? items'[n]? := by
  induction items generalizing items' n with
  | nil =>
    cases h
    exact .none
  | cons item rest ih =>
    obtain ⟨item', hitem, h⟩ := bind_eq_ok_iff.1 h
    obtain ⟨rest', hrest, h⟩ := bind_eq_ok_iff.1 h
    cases h
    cases n with
    | zero => exact .some hitem
    | succ n => exact ih hrest n

theorem rel_member? {members members' : List (String × Json)}
    (h : substituteMembers store members = .ok members') (name : String) :
    Option.Rel (fun x y => substituteJson store x = .ok y)
      (Bindings.get? name members) (Bindings.get? name members') := by
  induction members generalizing members' with
  | nil =>
    cases h
    exact .none
  | cons member rest ih =>
    obtain ⟨value, hvalue, h⟩ := bind_eq_ok_iff.1 h
    obtain ⟨rest', hrest, h⟩ := bind_eq_ok_iff.1 h
    cases h
    simp only [Bindings.get?]
    split
    · exact .some hvalue
    · exact ih hrest

/-- A step leads into both values or into neither, and from one to the other by substitution. -/
theorem rel_step? {v w : Json} (h : substituteJson store v = .ok w) (step : Step) :
    Option.Rel (fun x y => substituteJson store x = .ok y) (step? step v) (step? step w) := by
  cases v with
  | array items =>
    obtain ⟨items', hitems, rfl⟩ := map_eq_ok_iff.1 h
    cases step with
    | field name => exact .none
    | index n => exact rel_item? hitems n
  | object members =>
    obtain ⟨members', hmembers, rfl⟩ := map_eq_ok_iff.1 h
    cases step with
    | field name => exact rel_member? hmembers name
    | index n => exact .none
  | string s =>
    obtain ⟨t, -, rfl⟩ := map_eq_ok_iff.1 h
    cases step <;> exact .none
  | _ =>
    cases h
    cases step <;> exact .none

theorem rel_follow? {v w : Json} (h : substituteJson store v = .ok w) (steps : List Step) :
    Option.Rel (fun x y => substituteJson store x = .ok y) (follow? steps v) (follow? steps w) := by
  induction steps generalizing v w with
  | nil => exact .some h
  | cons step rest ih =>
    have rel := rel_step? h step
    simp only [follow?]
    generalize step? step v = x?, step? step w = y? at rel ⊢
    cases rel with
    | none => exact .none
    | some hxy => exact ih hxy

/-! ## The texts of a value -/

mutual

/-- The texts of a value, from left to right. The names of members are none of them. -/
def texts : Json → List String
  | .string s => [s]
  | .array items => textsOfItems items
  | .object members => textsOfMembers members
  | _ => []

/-- The texts of items. -/
def textsOfItems : List Json → List String
  | [] => []
  | item :: rest => texts item ++ textsOfItems rest

/-- The texts of members. -/
def textsOfMembers : List (String × Json) → List String
  | [] => []
  | (_, value) :: rest => texts value ++ textsOfMembers rest

end

mutual

theorem references_eq : ∀ v : Json, references v = (texts v).flatMap placeholders
  | .string s => by simp [references, texts]
  | .array items => by rw [references, texts, referencesOfItems_eq]
  | .object members => by rw [references, texts, referencesOfMembers_eq]
  | .null | .bool _ | .number _ => by simp [references, texts]

theorem referencesOfItems_eq : ∀ items : List Json,
    referencesOfItems items = (textsOfItems items).flatMap placeholders
  | [] => rfl
  | item :: rest => by
    rw [referencesOfItems, textsOfItems, List.flatMap_append, references_eq, referencesOfItems_eq]

theorem referencesOfMembers_eq : ∀ members : List (String × Json),
    referencesOfMembers members = (textsOfMembers members).flatMap placeholders
  | [] => rfl
  | (_, value) :: rest => by
    rw [referencesOfMembers, textsOfMembers, List.flatMap_append, references_eq,
      referencesOfMembers_eq]

end

/-- Substitution fails on the first of the texts on which it fails. -/
theorem substituteJson_eq_error_iff {v : Json} {e : Unbound} :
    substituteJson store v = .error e ↔ ∃ before s after, texts v = before ++ s :: after ∧
      (∀ t ∈ before, ∃ out, substitute store t = .ok out) ∧ substitute store s = .error e := by
  have reads := Store.Reads.mapM reads_substitute (texts v)
  rw [(reads_substituteJson v).error_iff, references_eq, ← reads.error_iff, mapM_eq_error_iff]

/-- A path leads to a place in a filled value if and only if it leads to one in the template, and
then to what the template has there, filled. Filling fails if and only if one of the texts refers to
a variable without a value, and the first such text gives the error. -/
theorem at?_substituteJson (store : Store) (v : Json) :
    (∀ w, substituteJson store v = .ok w → ∀ path,
      (w.at? path = none ↔ v.at? path = none) ∧
      ∀ x, v.at? path = some x → ∃ y, w.at? path = some y ∧ substituteJson store x = .ok y) ∧
    ((∃ e, substituteJson store v = .error e) ↔
      ∃ s ∈ texts v, ∃ x ∈ placeholders s, store.get? x = none) ∧
    ∀ e, substituteJson store v = .error e ↔ ∃ before s after, texts v = before ++ s :: after ∧
      (∀ t ∈ before, ∀ x ∈ placeholders t, (store.get? x).isSome) ∧
      substitute store s = .error e := by
  refine ⟨fun w h path => ?_, ?_, fun e => ?_⟩
  · have rel := rel_follow? h (Json.Path.steps path)
    unfold Json.at?
    generalize follow? (Json.Path.steps path) v = x?, follow? (Json.Path.steps path) w = y? at rel ⊢
    cases rel with
    | none => simp
    | some hxy => simpa using hxy
  · have bound : (∃ w, substituteJson store v = .ok w) ↔
        ∀ s ∈ texts v, ∀ x ∈ placeholders s, store.get? x ≠ none := by
      rw [(reads_substituteJson v).ok_iff store, references_eq]
      simp only [List.mem_flatMap, Option.isSome_iff_ne_none]
      exact ⟨fun h s hs x hx => h x ⟨s, hs, hx⟩, fun h x ⟨s, hs, hx⟩ => h s hs x hx⟩
    cases h : substituteJson store v with
    | ok w =>
      have all := bound.1 ⟨w, h⟩
      simpa using all
    | error e =>
      have missing : ¬ ∃ w, substituteJson store v = .ok w := by simp [h]
      simpa using mt bound.2 missing
  · simp only [substituteJson_eq_error_iff, (reads_substitute _).ok_iff store]

/-- A name that looks like a placeholder, and a value that looks like one and is not filled again.
Without values the first text in document order gives the error. -/
theorem at?_substituteJson_nested :
    let v : Json := .object
      [("a", .array [.number (.integer 7), .string "<\x7b\x7b x \x7d\x7d>"]),
       ("\x7b\x7bx\x7d\x7d", .object [("b", .string "\x7b\x7by\x7d\x7d")])]
    let store := Store.ofList [("x", "\x7b\x7by\x7d\x7d"), ("y", "")]
    ∃ w, substituteJson store v = .ok w ∧
      w.at? "$.a[1]" = some (.string "<\x7b\x7by\x7d\x7d>") ∧
      w.at? "$.\x7b\x7bx\x7d\x7d.b" = some (.string "") ∧
      w.at? "$.\x7b\x7by\x7d\x7d.b" = none ∧
      substituteJson .empty v = .error ⟨"x"⟩ := by
  intro v store
  obtain ⟨w, hw⟩ : ∃ w, substituteJson store v = .ok w := isSome_toOption_iff.1 (by decide +kernel)
  obtain ⟨places, -, -⟩ := at?_substituteJson store v
  obtain ⟨-, -, errors⟩ := at?_substituteJson .empty v
  -- What the template has at a place that a path leads to, filled.
  have filledAt {path s t : String} (steps : List Step) (spelled : Json.Path.steps path = steps)
      (h : follow? steps v = some (.string s)) (filled : substitute store s = .ok t) :
      w.at? path = some (.string t) := by
    obtain ⟨y, hy, hfilled⟩ := (places w hw path).2 (.string s) (by rw [Json.at?, spelled, h])
    rw [substituteJson, filled] at hfilled
    cases hfilled
    exact hy
  have outside : v.at? "$.\x7b\x7by\x7d\x7d.b" = none := by
    have steps : Json.Path.steps "$.\x7b\x7by\x7d\x7d.b" =
      [.field "\x7b\x7by\x7d\x7d", .field "b"] := by decide +kernel
    rw [Json.at?, steps]
    rfl
  have first : substitute .empty "<\x7b\x7b x \x7d\x7d>" = .error ⟨"x"⟩ := by decide +kernel
  refine ⟨w, hw, filledAt [.field "a", .index 1] (by decide +kernel) rfl (by decide +kernel),
    filledAt [.field "\x7b\x7bx\x7d\x7d", .field "b"] (by decide +kernel) rfl
      (by decide +kernel), (places w hw _).1.2 outside, (errors _).2 ?_⟩
  exact ⟨[], _, ["\x7b\x7by\x7d\x7d"], rfl, List.forall_mem_nil _, first⟩

end Template

end ScenarioSuite
