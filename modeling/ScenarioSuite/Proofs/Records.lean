import Mathlib.Algebra.Group.Nat.Defs
import ScenarioSuite.Json.Decode
import ScenarioSuite.Proofs.Outcome

/-!
# Records read from JSON values

What a record is read into is made of its fields, each of which was read itself or holds what stands
for its absence. An object with a member for each field is read into these members, whatever else it
holds and in whatever order.

## Main definitions

* `Schema.Reads`: a value can be read at all.
* `Fields.Sourced`: where the fields of a record come from.
* `Fields.Found`: the members of an object that a record is read from.
* `Fields.Distinct`: no two fields have one name.

## Main statements

* `Schema.Reads.of_record`: a record's fields are read or absent.
* `Fields.foldlM_setMember_of_perm`: members are taken in any order.
* `Schema.ofJson_record`: a record is read from the members found.
* `Schema.ofJson_record_eq_ok_iff`: what an object is read into as a record.
-/

namespace ScenarioSuite

variable {α β : Type}

namespace Schema

/-- The value is read from some JSON value. -/
def Reads (schema : Schema α) (a : α) : Prop :=
  ∃ v, schema.ofJson v = .ok a

/-- What a field holds that is not there among named members. -/
def Absent.value? : Absent α → Option α
  | .refused => none
  | .allowed value => some value
  | .standard value => some value

attribute [local simp] ofJson

theorem ofJson_optional {inner : Schema α} {v : Json} (hv : v ≠ .null) :
    (optional inner).ofJson v = some <$> inner.ofJson v := by
  cases v <;> simp_all

theorem checkNatural_eq_ok_iff {bits n : Nat} {i : Int} :
    checkNatural bits i = .ok n ↔ i = n ∧ n < 2 ^ bits := by
  unfold checkNatural
  rw [Nat.pow_eq]
  split
  · simp only [Except.ok.injEq]
    omega
  · simp only [reduceCtorEq, false_iff]
    omega

theorem ofJson_text_eq_ok_iff {v : Json} {s : String} : text.ofJson v = .ok s ↔ v = .string s := by
  cases v <;> simp

theorem ofJson_flag_eq_ok_iff {v : Json} {b : Bool} : flag.ofJson v = .ok b ↔ v = .bool b := by
  cases v <;> simp

theorem ofJson_natural_eq_ok_iff {bits n : Nat} {v : Json} :
    (natural bits).ofJson v = .ok n ↔ v = .ofNat n ∧ n < 2 ^ bits := by
  cases v with
  | number number =>
    cases number <;> simp [naturalOfNumber, checkNatural_eq_ok_iff, Json.ofNat]
  | _ => simp [Json.ofNat]

theorem ofJson_optional_text_eq_ok_iff {v : Json} {s? : Option String} :
    (optional text).ofJson v = .ok s? ↔ v = .ofString? s? := by
  cases v with
  | null => cases s? <;> simp [Json.ofString?]
  | _ => cases s? <;> simp [Json.ofString?]

/-- A dictionary is read from the members of an object one by one. -/
theorem ofJson_dict_eq_ok_iff {inner : Schema α} {members : List (String × Json)} {d : Dict α} :
    (dict inner).ofJson (.object members) = .ok d ↔
      ∃ pairs, List.Forall₂ (fun m b => b.1 = m.1 ∧ inner.ofJson m.2 = .ok b.2) members pairs ∧
        Dict.ofList pairs = d := by
  have member (m : String × Json) (b : String × α) :
      (do return (m.1, ← inner.ofJson m.2) : Except Mismatch (String × α)) = .ok b ↔
        b.1 = m.1 ∧ inner.ofJson m.2 = .ok b.2 := by
    cases h : inner.ofJson m.2 <;>
      simp [bind, Except.bind, pure, Except.pure, Prod.ext_iff, eq_comm]
  rw [ofJson, bind_eq_ok_iff]
  simp only [mapM_eq_ok_iff, member]
  simp only [pure, Except.pure, Except.ok.injEq]

namespace Reads

theorem of_natural {bits n : Nat} (h : (natural bits).Reads n) : n < 2 ^ bits := by
  obtain ⟨v, h⟩ := h
  cases v with
  | number number =>
    cases number with
    | integer i => exact (checkNatural_eq_ok_iff.1 (by simpa [naturalOfNumber] using h)).2
    | real x => simp [naturalOfNumber] at h
  | _ => simp at h

theorem of_optional {inner : Schema α} {a : α} (h : (optional inner).Reads (some a)) :
    ∃ v, v ≠ .null ∧ inner.ofJson v = .ok a := by
  obtain ⟨v, h⟩ := h
  by_cases hv : v = .null
  · subst hv
    simp at h
  · rw [ofJson_optional hv] at h
    obtain ⟨b, hb, heq⟩ := map_eq_ok_iff.1 h
    cases heq
    exact ⟨v, hv, hb⟩

theorem of_list {inner : Schema α} {as : List α} (h : (list inner).Reads as) :
    ∀ a ∈ as, inner.Reads a := by
  obtain ⟨v, h⟩ := h
  cases v with
  | array items =>
    have read : List.Forall₂ (fun item a => inner.ofJson item = .ok a) items as :=
      mapM_eq_ok_iff.1 (by simpa only [ofJson] using h)
    intro a ha
    obtain ⟨item, -, hitem⟩ := exists_mem_of_forall₂ read ha
    exact ⟨item, hitem⟩
  | _ => simp at h

theorem of_checked {check : String → Except String α} {a : α} (h : (checked check).Reads a) :
    ∃ text, check text = .ok a := by
  obtain ⟨v, h⟩ := h
  cases v with
  | string text =>
    simp only [ofJson, checkText] at h
    split at h
    · next value hvalue =>
      cases h
      exact ⟨text, hvalue⟩
    · cases h
  | _ => simp at h

end Reads

end Schema

namespace Fields

/-- Induction over the fields of a record; the schemas in them are left alone. -/
@[elab_as_elim]
theorem induction {motive : {β : Type} → Fields β → Prop} (nil : motive .nil)
    (cons : ∀ {α β : Type} (name : String) (schema : Schema α) (absent : Schema.Absent α)
      (rest : Fields β), motive rest → motive (.cons name schema absent rest)) :
    {β : Type} → (fields : Fields β) → motive fields
  | _, .nil => nil
  | _, .cons name schema absent rest => cons name schema absent rest (induction nil cons rest)

/-! ### Where fields come from -/

/-- Each field is read, or holds what stands for its absence. -/
def Sourced : {β : Type} → Fields β → β → Prop
  | _, .nil, _ => True
  | _, .cons _ schema absent rest, b =>
    (schema.Reads b.1 ∨ absent.value? = some b.1) ∧ rest.Sourced b.2

/-- What has been put into a place is read. -/
def Holds : {β : Type} → (fields : Fields β) → fields.Slots → Prop
  | _, .nil, _ => True
  | _, .cons _ schema _ rest, slots => (∀ a ∈ slots.1, schema.Reads a) ∧ rest.Holds slots.2

theorem holds_noSlots (fields : Fields β) : fields.Holds fields.noSlots := by
  induction fields using Fields.induction with
  | nil => trivial
  | cons name schema absent rest ih => exact ⟨by simp [noSlots], ih⟩

/-- A member is read into the place of the first field of its name, if nothing is there yet. -/
theorem setMember_cons_eq_ok_iff {name : String} {schema : Schema α} {absent : Schema.Absent α}
    {rest : Fields β} {slots slots' : (cons name schema absent rest).Slots} {key : String}
    {value : Json} :
    (cons name schema absent rest).setMember slots key value = .ok slots' ↔
      (name = key ∧ slots.1 = none ∧
        ∃ a, schema.ofJson value = .ok a ∧ slots' = (some a, slots.2)) ∨
      (name ≠ key ∧ slots'.1 = slots.1 ∧ rest.setMember slots.2 key value = .ok slots'.2) := by
  obtain ⟨slot, slots⟩ := slots
  obtain ⟨slot', slots'⟩ := slots'
  by_cases hname : name = key
  · cases slot <;> cases h : schema.ofJson value <;>
      simp [setMember, hname, h, eq_comm, bind, Except.bind, pure, Except.pure]
  · cases h : rest.setMember slots key value <;>
      simp [setMember, hname, h, eq_comm, bind, Except.bind, pure, Except.pure]

theorem Holds.setMember {fields : Fields β} {slots slots' : fields.Slots} {key : String}
    {value : Json} (holds : fields.Holds slots)
    (h : fields.setMember slots key value = .ok slots') : fields.Holds slots' := by
  induction fields using Fields.induction with
  | nil => trivial
  | cons name schema absent rest ih =>
    obtain ⟨-, -, a, ha, rfl⟩ | ⟨-, hslot, hset⟩ := setMember_cons_eq_ok_iff.1 h
    · refine ⟨fun b hb => ?_, holds.2⟩
      cases hb
      exact ⟨value, ha⟩
    · exact ⟨hslot ▸ holds.1, ih holds.2 hset⟩

theorem Holds.foldlM {fields : Fields β} {members : List (String × Json)}
    {slots slots' : fields.Slots} (holds : fields.Holds slots)
    (h : members.foldlM (fun slots member => fields.setMember slots member.1 member.2) slots =
      .ok slots') : fields.Holds slots' := by
  induction members generalizing slots with
  | nil =>
    cases h
    exact holds
  | cons member members ih =>
    rw [List.foldlM_cons] at h
    obtain ⟨next, hnext, h⟩ := bind_eq_ok_iff.1 h
    exact ih (holds.setMember hnext) h

/-- What has been read counts before what stands for an absence. -/
theorem finish_cons_eq_ok_iff {name : String} {schema : Schema α} {absent : Schema.Absent α}
    {rest : Fields β} {slots : (cons name schema absent rest).Slots} {b : α × β} :
    (cons name schema absent rest).finish slots = .ok b ↔
      slots.1.or absent.value? = some b.1 ∧ rest.finish slots.2 = .ok b.2 := by
  obtain ⟨slot, slots⟩ := slots
  obtain ⟨a, b⟩ := b
  cases slot <;> cases absent <;>
    cases h : rest.finish slots <;>
    simp [finish, h, Schema.Absent.value?, bind, Except.bind, pure, Except.pure]

theorem Holds.sourced {fields : Fields β} {slots : fields.Slots} {b : β}
    (holds : fields.Holds slots) (h : fields.finish slots = .ok b) : fields.Sourced b := by
  induction fields using Fields.induction with
  | nil => trivial
  | cons name schema absent rest ih =>
    obtain ⟨hslot, hrest⟩ := finish_cons_eq_ok_iff.1 h
    refine ⟨?_, ih holds.2 hrest⟩
    rcases Option.or_eq_some_iff.1 hslot with hslot | ⟨-, hslot⟩
    · exact .inl (holds.1 b.1 hslot)
    · exact .inr hslot

theorem sourced_of_finishSequence {fields : Fields β} {type : String} {total position : Nat} {b : β}
    (h : fields.finishSequence type total position = .ok b) : fields.Sourced b := by
  induction fields using Fields.induction generalizing position with
  | nil => trivial
  | cons name schema absent rest ih =>
    cases absent with
    | standard value =>
      obtain ⟨b', hb', heq⟩ := bind_eq_ok_iff.1 (by simpa only [finishSequence] using h)
      cases heq
      exact ⟨.inr rfl, ih hb'⟩
    | _ => simp [finishSequence] at h

theorem sourced_of_ofItems {fields : Fields β} {type : String} {total position : Nat}
    {items rest : List Json} {b : β}
    (h : fields.ofItems type total position items = .ok (b, rest)) : fields.Sourced b := by
  induction fields using Fields.induction generalizing position items with
  | nil => trivial
  | cons name schema absent others ih =>
    cases items with
    | nil =>
      obtain ⟨b', hb', heq⟩ := bind_eq_ok_iff.1 (by simpa only [ofItems] using h)
      cases heq
      exact sourced_of_finishSequence hb'
    | cons item items =>
      obtain ⟨a, ha, h⟩ := bind_eq_ok_iff.1 (by simpa only [ofItems] using h)
      obtain ⟨⟨b', items'⟩, hb', heq⟩ := bind_eq_ok_iff.1 h
      cases heq
      exact ⟨.inl ⟨item, ha⟩, ih hb'⟩

end Fields

/-- The fields of what is read as a record are read themselves or absent, in an array as in an
object. -/
theorem Schema.Reads.of_record {type : String} {fields : Fields β} {build : β → α} {a : α}
    (h : (record type fields build).Reads a) : ∃ b, fields.Sourced b ∧ build b = a := by
  obtain ⟨v, h⟩ := h
  cases v with
  | object members =>
    obtain ⟨slots, hslots, h⟩ := bind_eq_ok_iff.1 (by simpa only [ofJson] using h)
    obtain ⟨b, hb, heq⟩ := bind_eq_ok_iff.1 h
    cases heq
    exact ⟨b, (fields.holds_noSlots.foldlM hslots).sourced hb, rfl⟩
  | array items =>
    obtain ⟨⟨b, rest⟩, hb, h⟩ := bind_eq_ok_iff.1 (by simpa only [ofJson] using h)
    refine ⟨b, Fields.sourced_of_ofItems hb, ?_⟩
    by_cases hrest : rest.isEmpty
    · simpa [hrest, pure, Except.pure] using h
    · simp [hrest] at h
  | _ => simp [ofJson] at h

/-! ### Members in any order -/

namespace Fields

/-- Members of different names do not get into each other's way. -/
theorem setMember_comm {fields : Fields β} {slots mid slots' : fields.Slots} {key key' : String}
    {value value' : Json} (hne : key ≠ key') (h : fields.setMember slots key value = .ok mid)
    (h' : fields.setMember mid key' value' = .ok slots') :
    ∃ mid', fields.setMember slots key' value' = .ok mid' ∧
      fields.setMember mid' key value = .ok slots' := by
  induction fields using Fields.induction with
  | nil => exact ⟨(), rfl, rfl⟩
  | cons name schema absent rest ih =>
    obtain ⟨slot, slots⟩ := slots
    obtain ⟨slot', slots'⟩ := slots'
    rcases setMember_cons_eq_ok_iff.1 h with ⟨rfl, rfl, a, ha, rfl⟩ | ⟨hname, hslot, hset⟩
    · rcases setMember_cons_eq_ok_iff.1 h' with ⟨rfl, -⟩ | ⟨hname', rfl, hset'⟩
      · exact absurd rfl hne
      · exact ⟨(none, slots'), setMember_cons_eq_ok_iff.2 (.inr ⟨hname', rfl, hset'⟩),
          setMember_cons_eq_ok_iff.2 (.inl ⟨rfl, rfl, a, ha, rfl⟩)⟩
    · rcases setMember_cons_eq_ok_iff.1 h' with ⟨rfl, hnone, a, ha, heq⟩ | ⟨hname', rfl, hset'⟩
      · cases heq
        exact ⟨(some a, slots),
          setMember_cons_eq_ok_iff.2 (.inl ⟨rfl, hslot.symm.trans hnone, a, ha, rfl⟩),
          setMember_cons_eq_ok_iff.2 (.inr ⟨hname, rfl, hset⟩)⟩
      · obtain ⟨mid', hmid', hmid⟩ := ih hset hset'
        exact ⟨(slot, mid'), setMember_cons_eq_ok_iff.2 (.inr ⟨hname', rfl, hmid'⟩),
          setMember_cons_eq_ok_iff.2 (.inr ⟨hname, hslot, hmid⟩)⟩

/-- Members of different names are taken in any order. -/
theorem foldlM_setMember_of_perm {fields : Fields β} {members order : List (String × Json)}
    (perm : members.Perm order) (nodup : (members.map (·.1)).Nodup) {slots slots' : fields.Slots}
    (h : members.foldlM (fun slots member => fields.setMember slots member.1 member.2) slots =
      .ok slots') :
    order.foldlM (fun slots member => fields.setMember slots member.1 member.2) slots =
      .ok slots' := by
  induction perm generalizing slots with
  | nil => exact h
  | cons member _ ih =>
    rw [List.foldlM_cons] at h ⊢
    obtain ⟨mid, hmid, h⟩ := bind_eq_ok_iff.1 h
    exact bind_eq_ok_iff.2 ⟨mid, hmid, ih (List.nodup_cons.1 nodup).2 h⟩
  | swap member member' members =>
    simp only [List.foldlM_cons] at h ⊢
    obtain ⟨mid, hmid, h⟩ := bind_eq_ok_iff.1 h
    obtain ⟨next, hnext, h⟩ := bind_eq_ok_iff.1 h
    have hne : member'.1 ≠ member.1 := fun heq => by simp [heq] at nodup
    obtain ⟨mid', hmid', hnext⟩ := setMember_comm hne hmid hnext
    exact bind_eq_ok_iff.2 ⟨mid', hmid', bind_eq_ok_iff.2 ⟨next, hnext, h⟩⟩
  | trans perm _ ih ih' => exact ih' ((perm.map (·.1)).nodup_iff.1 nodup) (ih nodup h)

end Fields

/-! ### Objects with a member for each field -/

namespace Fields

/-- Each field is read from the member of its name, or stands for the absence of one; no two fields
have one name. -/
def Found (members : List (String × Json)) : {β : Type} → Fields β → β → Prop
  | _, .nil, _ => True
  | _, .cons name schema absent rest, b =>
    (match Bindings.get? name members with
      | some value => schema.ofJson value = .ok b.1
      | none => absent.value? = some b.1) ∧
    rest.has name = false ∧ rest.Found members b.2

/-- No two fields have one name. -/
def Distinct : {β : Type} → Fields β → Prop
  | _, .nil => True
  | _, .cons name _ _ rest => rest.has name = false ∧ rest.Distinct

instance decidableDistinct : {β : Type} → (fields : Fields β) → Decidable fields.Distinct
  | _, .nil => .isTrue trivial
  | _, .cons name _ _ rest =>
    have := decidableDistinct rest
    inferInstanceAs (Decidable (rest.has name = false ∧ rest.Distinct))

theorem setMember_of_not_has {fields : Fields β} {key : String} (h : fields.has key = false)
    (slots : fields.Slots) (value : Json) : fields.setMember slots key value = .ok slots := by
  induction fields using Fields.induction with
  | nil => simp [setMember]
  | cons name schema absent rest ih =>
    simp only [has, Bool.or_eq_false_iff, beq_eq_false_iff_ne] at h
    simp only [setMember, if_neg h.1, ih h.2]
    rfl

/-- Members fill the place of the first field and the others independently of each other. -/
theorem foldlM_setMember_cons_eq_ok_iff {name : String} {schema : Schema α}
    {absent : Schema.Absent α} {rest : Fields β} (hrest : rest.has name = false)
    {members : List (String × Json)} (nodup : (members.map (·.1)).Nodup)
    {slots slots' : rest.Slots} {slot slot' : Option α} :
    members.foldlM (fun slots member => (Fields.cons name schema absent rest).setMember slots
      member.1 member.2) (slot, slots) = .ok (slot', slots') ↔
    members.foldlM (fun slots member => rest.setMember slots member.1 member.2) slots =
      .ok slots' ∧
    match Bindings.get? name members with
      | some value => slot = none ∧ ∃ a, schema.ofJson value = .ok a ∧ slot' = some a
      | none => slot' = slot := by
  induction members generalizing slot slots with
  | nil => simp [Bindings.get?, pure, Except.pure, eq_comm, and_comm]
  | cons member members ih =>
    obtain ⟨key, value⟩ := member
    obtain ⟨fresh, nodup'⟩ := List.nodup_cons.1 nodup
    rw [List.foldlM_cons, List.foldlM_cons, bind_eq_ok_iff, bind_eq_ok_iff]
    by_cases hname : name = key
    · subst hname
      have fixed := setMember_of_not_has hrest slots value
      rw [Bindings.get?, if_pos rfl]
      constructor
      · rintro ⟨mid, hmid, h⟩
        obtain ⟨-, hslot, a, ha, rfl⟩ | ⟨hne, -⟩ := setMember_cons_eq_ok_iff.1 hmid
        · obtain ⟨hslots, later⟩ := (ih nodup').1 h
          rw [Bindings.get?_eq_none fresh] at later
          exact ⟨⟨slots, fixed, hslots⟩, hslot, a, ha, later⟩
        · exact absurd rfl hne
      · rintro ⟨⟨mid, hmid, hslots⟩, hslot, a, ha, later⟩
        obtain rfl : slots = mid := by simpa using fixed.symm.trans hmid
        refine ⟨(some a, slots), setMember_cons_eq_ok_iff.2 (.inl ⟨rfl, hslot, a, ha, rfl⟩),
          (ih nodup').2 ⟨hslots, ?_⟩⟩
        rwa [Bindings.get?_eq_none fresh]
    · rw [Bindings.get?, if_neg hname]
      constructor
      · rintro ⟨⟨_, mid⟩, hmid, h⟩
        obtain ⟨heq, -⟩ | ⟨-, rfl, hmid⟩ := setMember_cons_eq_ok_iff.1 hmid
        · exact absurd heq hname
        · obtain ⟨hslots, later⟩ := (ih nodup').1 h
          exact ⟨⟨mid, hmid, hslots⟩, later⟩
      · rintro ⟨⟨mid, hmid, hslots⟩, later⟩
        exact ⟨(slot, mid), setMember_cons_eq_ok_iff.2 (.inr ⟨hname, rfl, hmid⟩),
          (ih nodup').2 ⟨hslots, later⟩⟩

theorem Found.exists_slots {members : List (String × Json)} {fields : Fields β} {b : β}
    (found : fields.Found members b) (nodup : (members.map (·.1)).Nodup) :
    ∃ slots, members.foldlM (fun slots member => fields.setMember slots member.1 member.2)
      fields.noSlots = .ok slots ∧ fields.finish slots = .ok b := by
  induction fields using Fields.induction with
  | nil =>
    refine ⟨(), ?_, rfl⟩
    clear nodup found
    induction members with
    | nil => rfl
    | cons member members ih => rw [List.foldlM_cons, setMember_of_not_has rfl]; exact ih
  | cons name schema absent rest ih =>
    obtain ⟨hfield, hname, hrest⟩ := found
    obtain ⟨slots, hslots, hfinish⟩ := ih hrest
    cases hvalue : Bindings.get? name members with
    | some value =>
      rw [hvalue] at hfield
      refine ⟨(some b.1, slots), (foldlM_setMember_cons_eq_ok_iff hname nodup).2 ⟨hslots, ?_⟩, ?_⟩
      · rw [hvalue]
        exact ⟨rfl, b.1, hfield, rfl⟩
      · exact finish_cons_eq_ok_iff.2 ⟨rfl, hfinish⟩
    | none =>
      rw [hvalue] at hfield
      refine ⟨(none, slots), (foldlM_setMember_cons_eq_ok_iff hname nodup).2 ⟨hslots, ?_⟩, ?_⟩
      · rw [hvalue]
      · exact finish_cons_eq_ok_iff.2 ⟨hfield, hfinish⟩

theorem found_of_slots {members : List (String × Json)} {fields : Fields β} {b : β}
    (distinct : fields.Distinct) (nodup : (members.map (·.1)).Nodup) {slots : fields.Slots}
    (hslots : members.foldlM (fun slots member => fields.setMember slots member.1 member.2)
      fields.noSlots = .ok slots) (hfinish : fields.finish slots = .ok b) :
    fields.Found members b := by
  induction fields using Fields.induction with
  | nil => trivial
  | cons name schema absent rest ih =>
    obtain ⟨hname, distinct⟩ := distinct
    obtain ⟨hvalue, hfinish⟩ := finish_cons_eq_ok_iff.1 hfinish
    obtain ⟨hslots, hslot⟩ := (foldlM_setMember_cons_eq_ok_iff hname nodup).1 hslots
    refine ⟨?_, hname, ih distinct hslots hfinish⟩
    split at hslot
    · obtain ⟨-, a, ha, hslot⟩ := hslot
      rw [hslot] at hvalue
      cases hvalue
      exact ha
    · rwa [hslot] at hvalue

end Fields

/-- An object is read into the record whose fields are found in it. -/
theorem Schema.ofJson_record {type : String} {fields : Fields β} {build : β → α}
    {members : List (String × Json)} {b : β} (found : fields.Found members b)
    (nodup : (members.map (·.1)).Nodup) :
    (record type fields build).ofJson (.object members) = .ok (build b) := by
  obtain ⟨slots, hslots, hfinish⟩ := found.exists_slots nodup
  simp only [ofJson, hslots, ok_bind, hfinish]
  rfl

/-- Nothing but the members of the names of the fields decides what an object is read into. -/
theorem Schema.ofJson_record_eq_ok_iff {type : String} {fields : Fields β} {build : β → α}
    {members : List (String × Json)} {a : α} (distinct : fields.Distinct)
    (nodup : (members.map (·.1)).Nodup) :
    (record type fields build).ofJson (.object members) = .ok a ↔
      ∃ b, fields.Found members b ∧ build b = a := by
  constructor
  · intro h
    obtain ⟨slots, hslots, h⟩ := bind_eq_ok_iff.1 (by simpa only [ofJson] using h)
    obtain ⟨b, hb, heq⟩ := bind_eq_ok_iff.1 h
    cases heq
    exact ⟨b, Fields.found_of_slots distinct nodup hslots hb, rfl⟩
  · rintro ⟨b, found, rfl⟩
    exact ofJson_record found nodup

/-! ### Values written and read again -/

namespace Schema

theorem ofJson_text (s : String) : text.ofJson (.string s) = .ok s := by
  simp only [ofJson]

theorem ofJson_none (inner : Schema α) : (optional inner).ofJson .null = .ok none := by
  simp only [ofJson]

theorem ofJson_some {inner : Schema α} {v : Json} {a : α} (hv : v ≠ .null)
    (h : inner.ofJson v = .ok a) : (optional inner).ofJson v = .ok (some a) := by
  rw [ofJson_optional hv, h]
  rfl

theorem ofJson_natural {bits n : Nat} (h : n < 2 ^ bits) :
    (natural bits).ofJson (.ofNat n) = .ok n := by
  simpa [ofJson, Json.ofNat, naturalOfNumber] using checkNatural_eq_ok_iff.2 ⟨rfl, h⟩

theorem ofJson_list {inner : Schema α} {encode : α → Json} {as : List α}
    (h : ∀ a ∈ as, inner.ofJson (encode a) = .ok a) :
    (list inner).ofJson (.array (as.map encode)) = .ok as := by
  rw [ofJson, mapM_eq_ok_iff, List.forall₂_map_left_iff]
  exact List.forall₂_same.2 h

theorem ofJson_dict {inner : Schema α} {encode : α → Json} {d : Dict α}
    (h : ∀ entry ∈ d.entries, inner.ofJson (encode entry.2) = .ok entry.2) :
    (dict inner).ofJson (.object (d.entries.map fun entry => (entry.1, encode entry.2))) =
      .ok d := by
  refine ofJson_dict_eq_ok_iff.2 ⟨d.entries, ?_, d.ofList_entries⟩
  rw [List.forall₂_map_left_iff]
  exact List.forall₂_same.2 fun entry hentry => ⟨rfl, h entry hentry⟩

theorem ofJson_dict_text (d : Dict String) : (dict text).ofJson (.ofDict d) = .ok d :=
  ofJson_dict fun entry _ => ofJson_text entry.2

end Schema

/-- The members of an object that is written have different names. -/
theorem Json.nodup_ofList (members : List (String × Json)) :
    ((Bindings.ofList members).map (·.1)).Nodup :=
  (Bindings.Ordered.ofList members).nodup_keys

end ScenarioSuite
