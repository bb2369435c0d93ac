import ScenarioSuite.Proofs.SourceNodes
import ScenarioSuite.Proofs.SourceNumbers

/-!
# What sources mean in YAML

The node of a source means the value of the source, if YAML takes its numbers for what they are.
There are no aliases in it, so nothing is read twice.

## Main definitions

* `Yaml.Reader.Gives`: what a reader gives without following an alias.
* `Json.Source.Agrees`: YAML takes every number in a source for what it is.

## Main statements

* `Yaml.Reader.gives_readJson`, `Yaml.Reader.gives_readAlternative`: the node of a source is read as
  its value.
-/

namespace ScenarioSuite.Json

open Yaml (Node)

mutual

/-- The numbers in a source as they are written. -/
def Source.literals : Source → List Literal
  | .number l => [l]
  | .array _ items => items.literals
  | .object _ members => members.literals
  | _ => []

/-- The numbers in items. -/
def Items.literals : Items → List Literal
  | .nil => []
  | .cons _ item _ rest => item.literals ++ rest.literals

/-- The numbers in members. -/
def Members.literals : Members → List Literal
  | .nil => []
  | .cons _ _ _ _ value _ rest => value.literals ++ rest.literals

end

/-- YAML takes every number in the source for the number that it is. -/
def Source.Agrees (src : Source) : Prop :=
  ∀ l ∈ src.literals, l.Agrees

theorem Items.nodes_eq (items : Items) : items.nodes = items.sources.map Source.node := by
  induction items using Items.induction with
  | nil => rfl
  | cons before src after rest ih => rw [nodes, ih]; rfl

/-- The nodes of the name and of the value of a member. -/
def pairOf (m : String × Source) : Node × Node :=
  (.scalar none .double m.1, m.2.node)

theorem Members.pairs_eq (members : Members) : members.pairs = members.entries.map pairOf := by
  induction members using Members.induction with
  | nil => rfl
  | cons before name mid behind value after rest ih => rw [pairs, ih]; rfl

theorem Source.Agrees.of_items {inside : Layout} {items : Items}
    (h : (Source.array inside items).Agrees) : ∀ src ∈ items.sources, src.Agrees := by
  change ∀ l ∈ items.literals, l.Agrees at h
  induction items using Items.induction with
  | nil => exact fun src hsrc => absurd hsrc List.not_mem_nil
  | cons before src after rest ih =>
    obtain ⟨hsrc, hrest⟩ := List.forall_mem_append.1 h
    exact List.forall_mem_cons.2 ⟨hsrc, ih hrest⟩

theorem Source.Agrees.of_members {inside : Layout} {members : Members}
    (h : (Source.object inside members).Agrees) : ∀ m ∈ members.entries, m.2.Agrees := by
  change ∀ l ∈ members.literals, l.Agrees at h
  induction members using Members.induction with
  | nil => exact fun m hm => absurd hm List.not_mem_nil
  | cons before name mid behind value after rest ih =>
    obtain ⟨hvalue, hrest⟩ := List.forall_mem_append.1 h
    exact List.forall_mem_cons.2 ⟨hvalue, ih hrest⟩

end ScenarioSuite.Json

namespace ScenarioSuite.Yaml.Reader

open Json (Items Members Source pairOf)

variable {α β : Type} {a : α} {b : β} {depth : Nat} {place : Place}

/-- The reader succeeds with the result and follows no alias, in any document. -/
def Gives (r : Reader α) (a : α) : Prop :=
  ∀ document jumps, r document jumps = .ok (a, jumps)

namespace Gives

protected theorem pure (a : α) : Gives (pure a) a :=
  fun _ _ => rfl

protected theorem bind {r : Reader α} {f : α → Reader β} (hr : Gives r a) (hf : Gives (f a) b) :
    Gives (r >>= f) b := by
  intro document jumps
  change (r document jumps >>= fun s => f s.1 document s.2) = _
  rw [hr document jumps]
  exact hf document jumps

protected theorem map {r : Reader α} (f : α → β) (hr : Gives r a) : Gives (f <$> r) (f a) := by
  intro document jumps
  change (r document jumps >>= fun s => .ok (f s.1, s.2)) = _
  rw [hr document jumps]
  rfl

protected theorem located {r : Reader α} (hr : Gives r a) : Gives (located place r) a := by
  intro document jumps
  rw [Reader.located, hr document jumps]

theorem ofCheck {check : Except Schema.Mismatch α} (h : check = .ok a) :
    Gives (ofCheck check) a := by
  rw [h]
  exact .pure a

/-- The node of a source stands for itself. -/
theorem resolve (src : Source) : Gives (resolve src.node) src.node := by
  cases src <;> exact .pure _

theorem text (wanted s : String) : Gives (text wanted place (.scalar none .double s)) s :=
  .located ((Gives.pure _).bind (.pure s))

end Gives

theorem gives_items (read : Place → Node → Reader α) (place : Place) {srcs : List Source}
    {as : List α} (h : List.Forall₂ (fun src a => ∀ place, Gives (read place src.node) a) srcs as)
    (n : Nat) :
    Gives (items read place n (srcs.map Source.node)) as := by
  induction h generalizing n with
  | nil => exact .pure []
  | cons head _ ih => exact (head _).bind ((ih (n + 1)).bind (.pure _))

theorem gives_jsonPairs (read : Place → Node → Reader Json) (place : Place)
    {entries : List (String × Source)} {values : List (String × Json)}
    (h : List.Forall₂ (fun m v => v.1 = m.1 ∧ ∀ place, Gives (read place m.2.node) v.2) entries
      values) (first : Bool) :
    Gives (jsonPairs read place first (entries.map pairOf)) values := by
  induction h generalizing first with
  | nil => exact .pure []
  | @cons m v _ _ head _ ih =>
    obtain ⟨name, json⟩ := v
    obtain ⟨rfl, value⟩ := head
    exact (Gives.text _ _).bind ((value _).bind ((ih false).bind (.pure _)))

theorem gives_dictPairs (read : Place → Node → Reader α) (place : Place)
    {entries : List (String × Source)} {values : List (String × α)}
    (h : List.Forall₂ (fun m v => v.1 = m.1 ∧ ∀ place, Gives (read place m.2.node) v.2) entries
      values) :
    Gives (dictPairs read place (entries.map pairOf)) values := by
  induction h with
  | nil => exact .pure []
  | @cons m v _ _ head _ ih =>
    obtain ⟨name, a⟩ := v
    obtain ⟨rfl, value⟩ := head
    exact (Gives.text _ _).bind ((value _).bind (ih.bind (.pure _)))

theorem gives_objectPairs (read : Place → Node → Reader (Option Json)) (place : Place)
    (key : ∀ place s, Gives (read place (.scalar none .double s)) (some (.string s)))
    {entries : List (String × Source)}
    (h : ∀ m ∈ entries, ∀ place, Gives (read place m.2.node) (some m.2.json)) :
    Gives (objectPairs read place (entries.map pairOf))
      (some (entries.map fun m => (m.1, m.2.json))) := by
  induction entries with
  | nil => exact .pure _
  | cons m entries ih =>
    obtain ⟨value, values⟩ := List.forall_mem_cons.1 h
    exact (key _ _).bind ((value _).bind ((ih values).bind (.pure _)))

/-! ## Scalars -/

theorem gives_jsonOfScalar {style : Style} {s : String} {v : Json}
    (h : jsonOfMeaning (if style == .plain then Meaning.ofPlain s else .text s) = some v)
    (wanted : String) : Gives (jsonOfScalar wanted none style s) v := by
  refine (Gives.ofCheck rfl).bind ?_
  simp only [h]
  exact .pure v

/-- Anything but a container is a scalar that means its value. -/
theorem exists_scalar {src : Source} (agrees : src.Agrees) (scalar : src.isContainer = false) :
    ∃ style s, src.node = .scalar none style s ∧
      ∀ wanted, Gives (jsonOfScalar wanted none style s) src.json := by
  cases src with
  | null => exact ⟨.plain, "null", rfl, gives_jsonOfScalar rfl⟩
  | bool b => cases b <;> exact ⟨.plain, _, rfl, gives_jsonOfScalar rfl⟩
  | number l =>
    obtain ⟨n, hn, hl⟩ := agrees l List.mem_cons_self
    have value : (Source.number l).json = .number n := by simp [Source.json, hn]
    rw [value]
    exact ⟨.plain, _, rfl, gives_jsonOfScalar hl⟩
  | string pieces => exact ⟨.double, _, rfl, gives_jsonOfScalar rfl⟩
  | array | object => cases scalar

theorem forall₂_jsons {items : Items} {p : Source → Json → Prop}
    (h : ∀ src ∈ items.sources, p src src.json) : List.Forall₂ p items.sources items.jsons := by
  rw [Json.Items.jsons_eq, List.forall₂_map_right_iff, List.forall₂_same]
  exact h

theorem forall₂_jsons_members {members : Members} {p : String × Source → String × Json → Prop}
    (h : ∀ m ∈ members.entries, p m (m.1, m.2.json)) :
    List.Forall₂ p members.entries members.jsons := by
  rw [Json.Members.jsons_eq, List.forall₂_map_right_iff, List.forall₂_same]
  exact h

/-- A source is read as its value, where any value is wanted. -/
theorem gives_readJson {src : Source} (agrees : src.Agrees) (low : src.height ≤ depth)
    (place : Place) : Gives (Yaml.readJson depth place src.node) src.json := by
  induction src using Source.induction generalizing depth place with
  | null | bool | number | string =>
    obtain ⟨style, s, node, meaning⟩ := exists_scalar agrees rfl
    have value := meaning jsonWanted
    rw [node, readJson]
    exact .located ((Gives.pure _).bind value)
  | array inside items ih =>
    obtain _ | depth := depth
    · exact absurd low (Nat.not_succ_le_zero _)
    have low := Json.Items.height_le_iff.1 (Nat.le_of_succ_le_succ low)
    have given := gives_items (Yaml.readJson depth) place
      (forall₂_jsons fun src hsrc => ih src hsrc (agrees.of_items src hsrc) (low src hsrc)) 0
    rw [← Json.Items.nodes_eq] at given
    rw [readJson]
    exact .located ((Gives.pure _).bind (given.map Json.array))
  | object inside members ih =>
    obtain _ | depth := depth
    · exact absurd low (Nat.not_succ_le_zero _)
    have low := Json.Members.height_le_iff.1 (Nat.le_of_succ_le_succ low)
    have given := gives_jsonPairs (Yaml.readJson depth) place
      (forall₂_jsons_members fun m hm => ⟨rfl, ih m hm (agrees.of_members m hm) (low m hm)⟩) true
    rw [← Json.Members.pairs_eq] at given
    rw [readJson]
    exact .located ((Gives.pure _).bind (given.map Json.objectOf))

theorem mapM_id_some (as : List α) : (as.map some).mapM id = some as := by
  induction as with
  | nil => rfl
  | cons a as ih => rw [List.map_cons, List.mapM_cons, ih]; rfl

/-- A source is read as its value, where its kind decides between alternatives. -/
theorem gives_readAlternative {src : Source} (agrees : src.Agrees) (low : src.height ≤ depth)
    (place : Place) : Gives (readAlternative depth place src.node) (some src.json) := by
  induction src using Source.induction generalizing depth place with
  | null | bool | number | string =>
    obtain ⟨style, s, node, meaning⟩ := exists_scalar agrees rfl
    have value := meaning "any value"
    rw [node, readAlternative]
    exact .located ((Gives.pure _).bind (value.map some))
  | array inside items ih =>
    obtain _ | depth := depth
    · exact absurd low (Nat.not_succ_le_zero _)
    have low := Json.Items.height_le_iff.1 (Nat.le_of_succ_le_succ low)
    have each : List.Forall₂
        (fun src v => ∀ place, Gives (readAlternative depth place src.node) (some v))
        items.sources items.jsons :=
      forall₂_jsons fun src hsrc => ih src hsrc (agrees.of_items src hsrc) (low src hsrc)
    have given := gives_items (readAlternative depth) place (List.forall₂_map_right_iff.2 each) 0
    rw [← Json.Items.nodes_eq] at given
    rw [readAlternative]
    refine .located ((Gives.pure _).bind (given.bind ?_))
    rw [mapM_id_some]
    exact .pure _
  | object inside members ih =>
    obtain _ | depth := depth
    · exact absurd low (Nat.not_succ_le_zero _)
    have low := Json.Members.height_le_iff.1 (Nat.le_of_succ_le_succ low)
    have key (place : Place) (s : String) :
        Gives (readAlternative depth place (.scalar none .double s)) (some (.string s)) := by
      rw [readAlternative]
      exact .located ((Gives.pure _).bind ((gives_jsonOfScalar rfl _).map some))
    have given := gives_objectPairs (readAlternative depth) place key
      fun m hm => ih m hm (agrees.of_members m hm) (low m hm)
    rw [← Json.Members.pairs_eq, ← Json.Members.jsons_eq] at given
    rw [readAlternative]
    exact .located ((Gives.pure _).bind (given.bind (.pure _)))

end ScenarioSuite.Yaml.Reader
