import Mathlib.Data.List.Perm.Basic
import ScenarioSuite.Json.Parse
import ScenarioSuite.Proofs.Records
import ScenarioSuite.Proofs.TextSkipping

/-!
# Printed values read by schema

What a schema reads in a plain value, it reads in the text of this value, combinator by combinator.
The members of an object may be written in any order: a dictionary puts them in order itself, and a
record takes each into a place of its own. Members of no field are passed over in the text.

## Main definitions

* `Schema.ReadsTexts`, `Fields.ReadTexts`: what is read in a value is read in its text.

## Main statements

* `Schema.readsTexts`, `Fields.readTexts`: every schema reads texts.
* `Schema.parseJson_render`, `Schema.parseJsonBytes_encode`: the same for whole texts.
-/

namespace ScenarioSuite

open Json (Plain Rearranged renderChars)
open Text.Utf8 (Symbol)

namespace Json.Reader

theorem Takes.peekValue {c : Char} (h : isSpace c = false) (rest : List Symbol) :
    Takes Schema.peekValue (.char c :: rest) c (.char c :: rest) :=
  (Takes.peekItem h rest).bind (.pure c _)

theorem takes_readText (wanted s : String) (rest : List Symbol) :
    Takes (Schema.readText wanted) ((quoteChars s.toList).map .char ++ rest) s rest := by
  rw [quoteChars, List.cons_append, List.map_cons, List.map_append, List.cons_append,
    List.append_assoc]
  exact (Takes.peekValue rfl _).bind ((Takes.skip _ _).bind (takes_string s rest))

theorem spells_readText (wanted s : String) :
    Spells (Schema.readText wanted) (renderChars (.string s)) s :=
  ⟨⟨'"', _, rfl, rfl, by decide⟩, fun rest _ => takes_readText wanted s rest⟩

theorem spells_readFlag (b : Bool) : Spells Schema.readFlag (renderChars (.bool b)) b := by
  cases b with
  | true =>
    exact ⟨⟨'t', ['r', 'u', 'e'], rfl, rfl, by decide⟩, fun rest _ => (Takes.peekValue rfl _).bind
      ((Takes.skip _ _).bind ((takes_word ['r', 'u', 'e'] rest).bind (.pure _ rest)))⟩
  | false =>
    exact ⟨⟨'f', ['a', 'l', 's', 'e'], rfl, rfl, by decide⟩, fun rest _ =>
      (Takes.peekValue rfl _).bind
        ((Takes.skip _ _).bind ((takes_word ['a', 'l', 's', 'e'] rest).bind (.pure _ rest)))⟩

theorem Takes.ofCheck {α : Type} {check : Except Schema.Mismatch α} {a : α} (h : check = .ok a)
    (input : List Symbol) : Takes (ofCheck check) input a input :=
  h ▸ .pure a input

theorem Takes.located {α : Type} {r : Reader α} {input rest : List Symbol} {a : α}
    (h : Takes r input a rest) : Takes (located r) input a rest := by
  intro p
  obtain ⟨q, hq⟩ := h p
  exact ⟨q, by rw [Reader.located, hq]⟩

theorem spells_readNatural {bits k : Nat} {n : Int} (greatest : n < 2 ^ 64)
    (h : Schema.checkNatural bits n = .ok k) :
    Spells (Schema.readNatural bits) (renderChars (.number (.integer n))) k := by
  obtain ⟨rfl, -⟩ := Schema.checkNatural_eq_ok_iff.1 h
  rcases renderChars_integer k with ⟨m, hm, text⟩ | ⟨m, pos, hm, -⟩
  · obtain rfl : k = m := Int.ofNat_inj.1 hm
    obtain ⟨c, cs, hcs, digit⟩ := exists_toDigits_head k
    have other {l : Char} (hl : l.isDigit = false) : c ≠ l := ne_of_isDigit digit hl
    have blank : isSpace c = false := by simp [isSpace, other]
    rw [text]
    refine ⟨⟨c, cs, hcs, blank, other rfl⟩, fun rest closing => ?_⟩
    have fits : k < Nat.pow 2 64 := by rw [Nat.pow_eq]; omega
    have taken : Takes (do
        let n ← number false
        Reader.located (Reader.ofCheck (Schema.naturalOfNumber bits n)))
        ((Nat.toDigits 10 k).map .char ++ rest) k rest :=
      (takes_number fits false closing).bind (.located (.ofCheck h rest))
    rw [hcs] at taken ⊢
    refine (Takes.peekValue blank _).bind ?_
    rw [if_neg (other rfl), if_pos digit]
    exact taken
  · omega

/-- The text of what is not null does not begin as the text of null does. -/
theorem exists_renderChars_head {depth : Nat} {v v' : Json} (plain : Plain depth v)
    (h : Rearranged v v') (hv : v ≠ .null) :
    ∃ c cs, renderChars v' = c :: cs ∧ isSpace c = false ∧ c ≠ 'n' := by
  cases h with
  | null => exact absurd rfl hv
  | bool b => cases b <;> exact ⟨_, _, rfl, rfl, by decide⟩
  | number n =>
    cases plain with
    | @integer _ i =>
      rcases renderChars_integer i with ⟨k, -, text⟩ | ⟨k, -, -, text⟩
      · obtain ⟨c, cs, hcs, digit⟩ := exists_toDigits_head k
        have other {l : Char} (hl : l.isDigit = false) : c ≠ l := ne_of_isDigit digit hl
        exact ⟨c, cs, text.trans hcs, by simp [isSpace, other], other rfl⟩
      · exact ⟨_, _, text, rfl, by decide⟩
  | string s => exact ⟨_, _, rfl, rfl, by decide⟩
  | array => exact ⟨_, _, rfl, rfl, by decide⟩
  | object => exact ⟨_, _, rfl, rfl, by decide⟩

end Json.Reader

open Json.Reader

variable {α β : Type}

/-- What is read in a plain value is read in its text, in whatever order members are written. -/
def Schema.ReadsTexts (schema : Schema α) : Prop :=
  ∀ {depth : Nat} {v v' : Json} {a : α}, Plain depth v → Rearranged v v' →
    schema.ofJson v = .ok a → Spells (schema.readJson depth) (renderChars v') a

/-- What is taken from a plain value, named or in a sequence, is taken from its text. -/
structure Fields.ReadTexts (fields : Fields β) : Prop where
  member {depth : Nat} {v v' : Json} {slots slots' : fields.Slots} {key : String}
    {rest : List Symbol} (plain : Plain depth v) (h : Rearranged v v')
    (hslots : fields.setMember slots key v = .ok slots') (closing : Closing rest) :
    Takes (fields.readMember depth slots key) (.char ':' :: ((renderChars v').map .char ++ rest))
      slots' rest
  items {type : String} {total position depth : Nat} {items items' : List Json} {b : β}
    (plain : ∀ item ∈ items, Plain depth item) (h : List.Forall₂ Rearranged items items')
    (hb : fields.ofItems type total position items = .ok (b, [])) (first : Bool)
    (rest : List Symbol) :
    Takes (fields.readItems type total depth position first)
      ((separated renderChars first items').map .char ++ .char ']' :: rest) b (.char ']' :: rest)

namespace Schema

theorem text_readsTexts : text.ReadsTexts := by
  intro depth v v' a plain h ha
  cases h with
  | string s =>
    cases ha
    exact spells_readText "a string" _
  | _ => cases ha

theorem flag_readsTexts : flag.ReadsTexts := by
  intro depth v v' a plain h ha
  cases h with
  | bool b =>
    cases ha
    exact spells_readFlag _
  | _ => cases ha

theorem natural_readsTexts (bits : Nat) : (natural bits).ReadsTexts := by
  intro depth v v' a plain h ha
  cases plain with
  | integer _ greatest =>
    cases h
    exact spells_readNatural greatest ha
  | _ => cases ha

theorem json_readsTexts : json.ReadsTexts := by
  intro depth v v' a plain h ha
  cases ha
  exact spells_value plain h

theorem name_readsTexts (known : List (String × α)) : (name known).ReadsTexts := by
  intro depth v v' a plain h ha
  cases plain with
  | string s =>
    cases h
    have spells := spells_readText "variant identifier" s
    refine ⟨⟨'"', _, rfl, rfl, by decide⟩, fun rest closing => (Takes.peekValue rfl _).bind ?_⟩
    exact (spells.takes rest closing).bind (.located (.ofCheck ha rest))
  | @object depth members _ _ =>
    obtain ⟨order, members', rfl, perm, hmembers⟩ := h.exists_members
    obtain _ | ⟨⟨variant, value⟩, _ | ⟨m, members⟩⟩ := members
    · cases ha
    · obtain rfl := List.singleton_perm.1 perm
      obtain _ | @⟨_, ⟨variant', value'⟩, _, _, ⟨rfl, hvalue⟩, _ | _⟩ := hmembers
      obtain ⟨b, hb, hnull⟩ := bind_eq_ok_iff.1 ha
      cases hvalue with
      | null =>
        cases hnull
        refine ⟨⟨'\x7b', _, rfl, rfl, by decide⟩, fun rest _ => ?_⟩
        have key := takes_readText "variant identifier" variant
          (.char ':' :: (['n', 'u', 'l', 'l'].map .char ++ .char '\x7d' :: rest))
        have nothing : Takes readNull (['n', 'u', 'l', 'l'].map .char ++ .char '\x7d' :: rest) ()
            (.char '\x7d' :: rest) :=
          (Takes.peekValue rfl _).bind ((Takes.skip _ _).bind (takes_word ['u', 'l', 'l'] _))
        simp only [renderChars, Json.renderMembers, List.map_append, List.map_cons, List.map_nil,
          List.append_assoc, List.cons_append, List.nil_append]
        refine (Takes.peekValue rfl _).bind ((Takes.skip _ _).bind (key.bind
          ((Takes.located (.ofCheck hb _)).bind ((takes_colon _).bind (nothing.bind ?_)))))
        exact (Takes.peekItem rfl _).bind ((Takes.skip _ _).bind (.pure a rest))
      | _ => cases hnull
    · cases ha
  | _ => cases ha

theorem textOr_readsTexts (type : String) (ofText : String → α) (ofJson : Json → α) :
    (textOr type ofText ofJson).ReadsTexts := by
  intro depth v v' a plain h ha
  have spells := spells_value plain h
  refine ⟨spells.opens, fun rest closing => (spells.takes rest closing).bind ?_⟩
  cases v <;> cases ha <;> exact .pure _ rest

theorem checked_readsTexts (check : String → Except String α) : (checked check).ReadsTexts := by
  intro depth v v' a plain h ha
  cases v with
  | string s =>
    cases h
    have spells := spells_readText "a string" s
    exact ⟨spells.opens, fun rest closing => (spells.takes rest closing).bind (.ofCheck ha rest)⟩
  | _ => cases ha

theorem optional_readsTexts {inner : Schema α} (hinner : inner.ReadsTexts) :
    (optional inner).ReadsTexts := by
  intro depth v v' a plain h ha
  by_cases hv : v = .null
  · subst hv
    cases h
    cases ha
    exact ⟨⟨'n', ['u', 'l', 'l'], rfl, rfl, by decide⟩, fun rest _ => (Takes.peekItem rfl _).bind
      ((Takes.skip _ _).bind ((takes_word ['u', 'l', 'l'] rest).bind (.pure _ rest)))⟩
  · rw [ofJson_optional hv] at ha
    obtain ⟨b, hb, rfl⟩ := map_eq_ok_iff.1 ha
    have spells := hinner plain h hb
    -- The first character alone decides whether the inner schema reads.
    obtain ⟨c, cs, text, blank, hc⟩ := exists_renderChars_head plain h hv
    refine ⟨spells.opens, fun rest closing => ?_⟩
    have taken := (spells.takes rest closing).map some
    rw [text] at taken ⊢
    refine (Takes.peekItem blank _).bind ?_
    split
    · next h => cases h; exact absurd rfl hc
    · exact taken

theorem list_readsTexts {inner : Schema α} (hinner : inner.ReadsTexts) :
    (list inner).ReadsTexts := by
  intro depth v v' a plain h ha
  cases plain with
  | array plain =>
    obtain ⟨items', rfl, hitems⟩ := h.exists_items
    have read := mapM_eq_ok_iff.1 (by simpa only [ofJson] using ha)
    have spells := forall₂_of_common hitems read fun v hv v' b h hb => hinner (plain v hv) h hb
    refine ⟨⟨'[', _, rfl, rfl, by decide⟩, fun rest _ => ?_⟩
    rw [renderChars, Json.renderItems_eq, List.cons_append, List.map_cons, List.map_append,
      List.cons_append, List.append_assoc]
    exact (Takes.peekValue rfl _).bind ((Takes.skip _ _).bind (takes_array spells rest))
  | _ => cases ha

theorem dict_readsTexts {inner : Schema α} (hinner : inner.ReadsTexts) :
    (dict inner).ReadsTexts := by
  intro depth v v' a plain h ha
  cases plain with
  | object ordered plain =>
    obtain ⟨order, members', rfl, perm, hmembers⟩ := h.exists_members
    obtain ⟨pairs, hpairs, rfl⟩ := ofJson_dict_eq_ok_iff.1 ha
    -- The text gives the pairs in an order of its own, which the dictionary does not keep.
    obtain ⟨pairs', hpairs', perm'⟩ := List.perm_comp_forall₂ perm.symm hpairs
    have nodup : (pairs.map (·.1)).Nodup :=
      map_fst_of_forall₂ hpairs (fun _ _ h => h.1) ▸ ordered.nodup_keys
    have same : Dict.ofList pairs' = Dict.ofList pairs :=
      Dict.ofList_of_perm
        ((Dict.entries_ofList pairs ▸ Bindings.ofList_perm nodup).trans perm'.symm)
    have spells := forall₂_of_common hmembers hpairs' fun m hm m' b h hb =>
      And.intro (hb.1.trans h.1) (hinner (plain m (perm.mem_iff.2 hm)) h.2 hb.2)
    refine ⟨⟨'\x7b', _, rfl, rfl, by decide⟩, fun rest _ => ?_⟩
    rw [renderChars, Json.renderMembers_eq, List.cons_append, List.map_cons, List.map_append,
      List.cons_append, List.append_assoc, ← same]
    exact (Takes.peekValue rfl _).bind (((Takes.skip _ _).bind (takes_object spells rest)).map _)
  | _ => cases ha

/-- The members of a record are read one by one. -/
theorem takes_readMembers {fields : Fields β} (hfields : fields.ReadTexts) {depth n : Nat}
    {order members : List (String × Json)} (plain : ∀ m ∈ order, Plain depth m.2)
    (h : List.Forall₂ (fun m m' => m.1 = m'.1 ∧ Rearranged m.2 m'.2) order members)
    {slots slots' : fields.Slots}
    (hslots : order.foldlM (fun slots member => fields.setMember slots member.1 member.2) slots =
      .ok slots') (hn : members.length < n) (first : Bool) (rest : List Symbol) :
    Takes (readMembers (fun slots key => fields.readMember depth slots key) n first slots)
      ((separated (memberText renderChars) first members).map .char ++ .char '\x7d' :: rest) slots'
      (.char '\x7d' :: rest) := by
  induction h generalizing n first slots with
  | nil =>
    obtain _ | n := n
    · exact absurd hn (Nat.lt_irrefl _)
    · cases hslots
      exact (takes_nextKey_end first rest).bind (.pure _ _)
  | @cons m m' order members head _ ih =>
    obtain _ | n := n
    · exact absurd hn (Nat.not_lt_zero _)
    · obtain ⟨name, hvalue⟩ := head
      obtain ⟨here, later⟩ := List.forall_mem_cons.1 plain
      obtain ⟨mid, hmid, hslots⟩ := bind_eq_ok_iff.1 (by simpa only [List.foldlM_cons] using hslots)
      simp only [separated, memberText, List.map_append, List.append_assoc, List.map_cons,
        List.cons_append]
      rw [name] at hmid
      exact (takes_nextKey first m'.1 _).bind ((hfields.member here hvalue hmid
        (closing_separated (memberText renderChars) members (by decide) rest)).bind
          (ih later hslots (Nat.lt_of_succ_lt_succ hn) false))

theorem record_readsTexts {type : String} {fields : Fields β} (hfields : fields.ReadTexts)
    (build : β → α) : (record type fields build).ReadsTexts := by
  intro depth v v' a plain h ha
  cases plain with
  | object ordered plain =>
    obtain ⟨order, members', rfl, perm, hmembers⟩ := h.exists_members
    obtain ⟨slots, hslots, hbuild⟩ := bind_eq_ok_iff.1 (by simpa only [ofJson] using ha)
    obtain ⟨b, hb, heq⟩ := bind_eq_ok_iff.1 hbuild
    cases heq
    have hslots := Fields.foldlM_setMember_of_perm perm ordered.nodup_keys hslots
    refine ⟨⟨'\x7b', _, rfl, rfl, by decide⟩, fun rest _ => ?_⟩
    rw [renderChars, Json.renderMembers_eq, List.cons_append, List.map_cons, List.map_append,
      List.cons_append, List.append_assoc]
    -- There are fewer members than symbols, so the fuel lasts.
    have length := length_le_length_members renderChars members' true
    refine (Takes.peekValue rfl _).bind ((Takes.skip _ _).bind
      (takes_enclosed ((Takes.fuel _).bind ?_) (takes_closeObject rest)))
    exact (takes_readMembers hfields (fun m hm => plain m (perm.mem_iff.2 hm)) hmembers hslots
      (by simp; omega) true rest).bind ((Takes.ofCheck hb _).map build)
  | array plain =>
    obtain ⟨items', rfl, hitems⟩ := h.exists_items
    obtain ⟨⟨b, left⟩, hb, heq⟩ := bind_eq_ok_iff.1 (by simpa only [ofJson] using ha)
    cases left with
    | cons => cases heq
    | nil =>
      cases heq
      refine ⟨⟨'[', _, rfl, rfl, by decide⟩, fun rest _ => ?_⟩
      rw [renderChars, Json.renderItems_eq, List.cons_append, List.map_cons, List.map_append,
        List.cons_append, List.append_assoc]
      exact (Takes.peekValue rfl _).bind ((Takes.skip _ _).bind
        (takes_enclosed ((hfields.items plain hitems hb true rest).map build)
          (takes_closeArray rest)))
  | _ => cases ha

end Schema

namespace Fields

theorem nil_readTexts : nil.ReadTexts where
  member plain h hslots closing := by
    cases hslots
    exact (takes_colon _).bind ((takes_skipValue plain h closing).bind (.pure _ _))
  items plain h hb first rest := by
    cases hb
    cases h
    exact .pure () _

theorem cons_readTexts {name : String} {schema : Schema α} {absent : Schema.Absent α}
    {fields : Fields β} (h : schema.ReadsTexts) (hrest : fields.ReadTexts) :
    (cons name schema absent fields).ReadTexts where
  member {depth v v' slots slots' key rest} plain hv hslots closing := by
    obtain ⟨slot, slots⟩ := slots
    rcases setMember_cons_eq_ok_iff.1 hslots with ⟨hname, rfl, a, ha, rfl⟩ | ⟨hname, hslot, hset⟩
    · rw [readMember, if_pos hname]
      exact (takes_colon _).bind (((h plain hv ha).takes rest closing).bind (.pure _ rest))
    · obtain ⟨slot', slots'⟩ := slots'
      cases hslot
      rw [readMember, if_neg hname]
      exact (hrest.member plain hv hset closing).bind (.pure _ rest)
  items {type total position depth items items' b} plain hitems hb first rest := by
    cases hitems with
    | nil =>
      obtain ⟨b', hb', heq⟩ := bind_eq_ok_iff.1 (by simpa only [ofItems] using hb)
      cases heq
      exact (takes_nextItem_end first rest).bind (.ofCheck hb' _)
    | @cons item item' items items' head tail =>
      obtain ⟨a, ha, h'⟩ := bind_eq_ok_iff.1 (by simpa only [ofItems] using hb)
      obtain ⟨⟨b', left⟩, hb', heq⟩ := bind_eq_ok_iff.1 h'
      cases heq
      obtain ⟨here, later⟩ := List.forall_mem_cons.1 plain
      have spells := h here head ha
      simp only [separated, List.map_append, List.append_assoc]
      exact (takes_nextItem first spells.opens _).bind
        ((spells.takes _ (closing_separated renderChars items' (by decide) rest)).bind
          ((hrest.items later tail hb' false rest).bind (.pure _ _)))

end Fields

mutual

theorem Schema.readsTexts : {α : Type} → (schema : Schema α) → schema.ReadsTexts
  | _, .text => Schema.text_readsTexts
  | _, .flag => Schema.flag_readsTexts
  | _, .natural bits => Schema.natural_readsTexts bits
  | _, .json => Schema.json_readsTexts
  | _, .name known => Schema.name_readsTexts known
  | _, .textOr type ofText ofJson => Schema.textOr_readsTexts type ofText ofJson
  | _, .checked check => Schema.checked_readsTexts check
  | _, .optional inner => Schema.optional_readsTexts inner.readsTexts
  | _, .list inner => Schema.list_readsTexts inner.readsTexts
  | _, .dict inner => Schema.dict_readsTexts inner.readsTexts
  | _, .record _ fields build => Schema.record_readsTexts fields.readTexts build

theorem Fields.readTexts : {β : Type} → (fields : Fields β) → fields.ReadTexts
  | _, .nil => Fields.nil_readTexts
  | _, .cons _ schema _ rest => Fields.cons_readTexts schema.readsTexts rest.readTexts

end

/-- What a schema reads in a plain value, it reads in the text of this value, in whatever order the
members of its objects are written. -/
theorem Schema.parseJson_render {schema : Schema α} {v v' : Json} {a : α}
    (plain : Plain depthLimit v) (h : Rearranged v v') (ha : schema.ofJson v = .ok a) :
    schema.parseJson v'.render = .ok a := by
  rw [parseJson, Json.render, Text.Utf8.symbolsOf, String.toList_ofList]
  exact (schema.readsTexts plain h ha).run_eq_ok

theorem Schema.parseJsonBytes_encode (schema : Schema α) (s : String) :
    schema.parseJsonBytes (Text.Utf8.encode s) = schema.parseJson s := by
  rw [parseJsonBytes, parseJson, Text.Utf8.symbols_encode]

end ScenarioSuite
