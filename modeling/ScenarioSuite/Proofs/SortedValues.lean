import ScenarioSuite.Proofs.SourceReading

/-!
# Values with sorted names

What is read from a text has the members of each object in the order of their names, and no name
twice. Values that are built otherwise need not be like that, so statements about the members of a
value ask for it.

## Main definitions

* `Json.Sorted`: each object of the value is in the order of its names.

## Main statements

* `Json.sorted_of_parse`: what is read from a text is sorted.
-/

namespace ScenarioSuite

namespace Json

/-- Each object of the value is in the order of its names. -/
inductive Sorted : Json → Prop where
  | null : Sorted .null
  | bool (b : Bool) : Sorted (.bool b)
  | number (n : Number) : Sorted (.number n)
  | string (s : String) : Sorted (.string s)
  | array {items : List Json} (h : ∀ item ∈ items, Sorted item) : Sorted (.array items)
  | object {members : List (String × Json)} (ordered : Bindings.Ordered members)
      (h : ∀ m ∈ members, Sorted m.2) : Sorted (.object members)

theorem sorted_objectOf {members : List (String × Json)} (h : ∀ m ∈ members, m.2.Sorted) :
    (objectOf members).Sorted :=
  .object (.ofList members) fun m hm => h m (Bindings.mem_of_mem_ofList hm)

namespace Reader

open Text.Utf8 (Symbol)

variable {α : Type} {item : Reader α} {p : α → Prop}

/-- If every item is like that, all items of an array are. -/
theorem yields_items_forall (hitem : ∀ input, Yields item input fun a _ => p a) (fuel : Nat)
    (first : Bool) (input : List Symbol) :
    Yields (items item fuel first) input fun as _ => ∀ a ∈ as, p a := by
  induction fuel generalizing first input with
  | zero => exact .pure (List.forall_mem_nil _)
  | succ fuel ih =>
    refine .bind_of_forall fun more mid => ?_
    cases more with
    | false => exact .pure (List.forall_mem_nil _)
    | true =>
      refine (hitem mid).bind fun a mid ha => (ih false mid).bind fun as mid has => ?_
      exact .pure (List.forall_mem_cons.2 ⟨ha, has⟩)

theorem yields_members_forall (hitem : ∀ input, Yields item input fun a _ => p a) (fuel : Nat)
    (first : Bool) (input : List Symbol) :
    Yields (members item fuel first) input fun ms _ => ∀ m ∈ ms, p m.2 := by
  induction fuel generalizing first input with
  | zero => exact .pure (List.forall_mem_nil _)
  | succ fuel ih =>
    refine .bind_of_forall fun key mid => ?_
    cases key with
    | none => exact .pure (List.forall_mem_nil _)
    | some key =>
      refine .bind_of_forall fun _ mid => ?_
      refine (hitem mid).bind fun a mid ha => (ih false mid).bind fun ms mid hms => ?_
      exact .pure (List.forall_mem_cons.2 ⟨ha, hms⟩)

/-- What is inside a container does not depend on how the container ends. -/
theorem yields_enclosed {r : Reader α} {close : Reader Unit} {input : List Symbol}
    (hr : Yields r input fun a _ => p a) : Yields (enclosed r close) input fun a _ => p a :=
  Yields.enclosed hr fun _ _ ha _ _ _ _ => ha

theorem yields_valueWith_sorted {inner : Option (Reader Json)}
    (hinner : ∀ item ∈ inner, ∀ input, Yields item input fun v _ => v.Sorted)
    (input : List Symbol) : Yields (valueWith inner) input fun v _ => v.Sorted := by
  have word (letters : List Char) {v : Json} (hv : v.Sorted) (input : List Symbol) :
      Yields (do skip; word letters; return v) input fun v _ => v.Sorted :=
    .bind_of_forall fun _ _ => .bind_of_forall fun _ _ => .pure hv
  have built {β : Type} (r : Reader β) {f : β → Json} (hf : ∀ b, (f b).Sorted)
      (input : List Symbol) : Yields (f <$> r) input fun v _ => v.Sorted :=
    .map fun _ b _ _ => hf b
  refine .bind_of_forall fun ahead mid => ?_
  split
  · exact .failAhead _
  · exact .failAhead _
  split
  · exact word _ .null _
  split
  · exact word _ (.bool true) _
  split
  · exact word _ (.bool false) _
  split
  · exact .bind_of_forall fun _ _ => built _ .number _
  split
  · exact built _ .number _
  split
  · exact .bind_of_forall fun _ _ => built _ .string _
  split
  · split
    · exact .failAhead _
    · next item =>
      refine .bind_of_forall fun _ _ => .map ((yields_enclosed ?_).mono fun _ _ => .array)
      exact .bind_of_forall fun fuel mid => yields_items_forall (hinner item rfl) fuel true mid
  split
  · split
    · exact .failAhead _
    · next item =>
      refine .bind_of_forall fun _ _ => .map ((yields_enclosed ?_).mono fun _ _ => sorted_objectOf)
      exact .bind_of_forall fun fuel mid => yields_members_forall (hinner item rfl) fuel true mid
  · exact .failAhead _

theorem yields_value_sorted (depth : Nat) (input : List Symbol) :
    Yields (value depth) input fun v _ => v.Sorted := by
  induction depth generalizing input with
  | zero => exact yields_valueWith_sorted (by simp) input
  | succ depth ih =>
    refine yields_valueWith_sorted ?_ input
    rintro item ⟨⟩
    exact ih

end Reader

/-- What is read from a text is sorted: of several members with one name the last is kept. -/
theorem sorted_of_parse {text : String} {v : Json} (h : parse text = .ok v) : v.Sorted := by
  have read (input : List Text.Utf8.Symbol) :
      Reader.Yields (Reader.whole (.value Reader.depthLimit)) input fun v _ => v.Sorted := by
    refine (Reader.yields_value_sorted Reader.depthLimit input).bind fun v mid hv => ?_
    refine .bind_of_forall fun ahead mid => ?_
    cases ahead with
    | none => exact .pure hv
    | some s => exact .failAhead _
  rw [parse, Reader.run] at h
  split at h
  · next a c ha =>
    cases h
    exact read _ _ _ c ha
  · cases h

end Json

end ScenarioSuite
