import Mathlib.Data.List.Forall2
import ScenarioSuite.Proofs.JsonText
import ScenarioSuite.Proofs.Rendering

/-!
# Bodies in JSON

A template in JSON is filled text by text and then written. Since writing escapes what the values
of variables bring in, reading the body gives back the filled template: no value can add a member,
close a text or change anything that is no text.

## Main definitions

* `Template.Filled`: a template in JSON and what it becomes.

## Main statements

* `Template.Filled.plain`: filling keeps a value plain.
* `RequestTemplate.parse_json_body`: the body of a request is read as the filled template.
-/

namespace ScenarioSuite

namespace Template

open Json (Plain)

variable {store : Store}

/-- The second value is the first one with each text substituted: the same names, as many items
and the same values that are no texts. -/
inductive Filled (store : Store) : Json → Json → Prop where
  | null : Filled store .null .null
  | bool (b : Bool) : Filled store (.bool b) (.bool b)
  | number (n : Json.Number) : Filled store (.number n) (.number n)
  | string {s t : String} (h : substitute store s = .ok t) : Filled store (.string s) (.string t)
  | array {items items' : List Json} (h : List.Forall₂ (Filled store) items items') :
      Filled store (.array items) (.array items')
  | object {members members' : List (String × Json)}
      (names : members.map (·.1) = members'.map (·.1))
      (h : List.Forall₂ (Filled store) (members.map (·.2)) (members'.map (·.2))) :
      Filled store (.object members) (.object members')

mutual

theorem filled_of_substituteJson : ∀ {v w : Json}, substituteJson store v = .ok w →
    Filled store v w
  | .null, _, h => by cases h; exact .null
  | .bool b, _, h => by cases h; exact .bool b
  | .number n, _, h => by cases h; exact .number n
  | .string s, _, h => by
    obtain ⟨t, ht, rfl⟩ := map_eq_ok_iff.1 h
    exact .string ht
  | .array items, _, h => by
    obtain ⟨items', h', rfl⟩ := map_eq_ok_iff.1 h
    exact .array (filled_of_substituteItems h')
  | .object members, _, h => by
    obtain ⟨members', h', rfl⟩ := map_eq_ok_iff.1 h
    obtain ⟨names, values⟩ := filled_of_substituteMembers h'
    exact .object names values

theorem filled_of_substituteItems : ∀ {items items' : List Json},
    substituteItems store items = .ok items' → List.Forall₂ (Filled store) items items'
  | [], _, h => by cases h; exact .nil
  | item :: rest, _, h => by
    obtain ⟨w, hw, h⟩ := bind_eq_ok_iff.1 h
    obtain ⟨ws, hws, h⟩ := bind_eq_ok_iff.1 h
    cases h
    exact .cons (filled_of_substituteJson hw) (filled_of_substituteItems hws)

theorem filled_of_substituteMembers : ∀ {members members' : List (String × Json)},
    substituteMembers store members = .ok members' →
      members.map (·.1) = members'.map (·.1) ∧
        List.Forall₂ (Filled store) (members.map (·.2)) (members'.map (·.2))
  | [], _, h => by cases h; exact ⟨rfl, .nil⟩
  | (name, value) :: rest, _, h => by
    obtain ⟨w, hw, h⟩ := bind_eq_ok_iff.1 h
    obtain ⟨ws, hws, h⟩ := bind_eq_ok_iff.1 h
    cases h
    obtain ⟨names, values⟩ := filled_of_substituteMembers hws
    exact ⟨congrArg (name :: ·) names, .cons (filled_of_substituteJson hw) values⟩

end

/-- Filling keeps a value plain: names stay in order and containers as deep as they are. -/
theorem Filled.plain {depth : Nat} {v w : Json} (filled : Filled store v w)
    (plain : Plain depth v) : Plain depth w := by
  induction plain generalizing w with
  | null => cases filled; exact .null
  | bool b => cases filled; exact .bool b
  | integer least greatest => cases filled; exact .integer least greatest
  | string s => cases filled; exact .string _
  | array _ ih =>
    cases filled with
    | array h =>
      refine .array fun item' hitem' => ?_
      obtain ⟨item, hitem, hfilled⟩ := exists_mem_of_forall₂ h hitem'
      exact ih item hitem hfilled
  | @object depth members ordered _ ih =>
    cases filled with
    | @object _ members' names h =>
      have increasing : (members.map (·.1)).Pairwise (· < ·) := List.pairwise_map.2 ordered
      have ordered' : Bindings.Ordered members' := List.pairwise_map.1 (names ▸ increasing)
      refine .object ordered' fun m' hm' => ?_
      obtain ⟨value, hvalue, hfilled⟩ := exists_mem_of_forall₂ h (List.mem_map_of_mem hm')
      obtain ⟨m, hm, rfl⟩ := List.mem_map.1 hvalue
      exact ih m hm hfilled

end Template

namespace Scenario.RequestTemplate

open Template (substituteJson Filled reads_substituteJson filled_of_substituteJson)
open Text.Utf8 (encode)

theorem exists_body_of_render {t : RequestTemplate} {store : Store} {base : String}
    {request : Http.Request} {body : BodyTemplate} (hbody : t.body = some body)
    (h : t.render store base = .ok request) :
    ∃ text, body.render store = .ok text ∧ request.body = some text := by
  obtain ⟨url, -, h⟩ := bind_eq_ok_iff.1 h
  obtain ⟨headers, -, h⟩ := bind_eq_ok_iff.1 h
  rw [hbody] at h
  obtain ⟨rendered, hrendered, h⟩ := bind_eq_ok_iff.1 h
  obtain ⟨text, htext, rfl⟩ := map_eq_ok_iff.1 hrendered
  cases h
  exact ⟨text, htext, rfl⟩

/-- Whatever characters the values of variables have, the body that a template in JSON gives is
read as the template with its texts substituted, as a text and as bytes. -/
theorem parse_json_body {v : Json} {store : Store} (plain : v.Plain Json.Reader.depthLimit)
    (bound : ∀ x ∈ Template.references v, (store.get? x).isSome) :
    ∃ w, substituteJson store v = .ok w ∧ Filled store v w ∧
      ∀ (t : RequestTemplate) (base : String), t.body = some (.json v) →
        ((∃ request, t.render store base = .ok request) ↔
          ∀ x ∈ t.references base, (store.get? x).isSome) ∧
        ∀ request, t.render store base = .ok request →
          ∃ text, request.body = some text ∧ Json.parse text = .ok w ∧
            Json.parseBytes (encode text) = .ok w := by
  obtain ⟨w, hw⟩ := ((reads_substituteJson v).ok_iff store).2 bound
  have filled := filled_of_substituteJson hw
  refine ⟨w, hw, filled, fun t base hbody => ⟨(t.reads_render base).ok_iff store, ?_⟩⟩
  intro request h
  obtain ⟨text, htext, hrequest⟩ := exists_body_of_render hbody h
  obtain ⟨w', hw', rfl⟩ := map_eq_ok_iff.1 htext
  obtain rfl : w = w' := Except.ok.inj (hw.symm.trans hw')
  have parsed := Json.parse_render (filled.plain plain)
  exact ⟨_, hrequest, parsed, (Json.parseBytes_encode _).trans parsed⟩

/-- A value with quotes, backslashes, control characters and braces stays inside its text, and a
name that looks like a placeholder stays as it is. -/
theorem parse_json_body_hostile :
    let hostile := "\",\\\n\x01\x7b\x7bq\x7d\x7d\u2028é😀"
    let store := Store.ofList [("q", hostile)]
    let body (s : String) : Json := .object
      [("a\"", .array [.number (.integer (-5)), .bool true, .string s]),
       ("\x7b\x7bq\x7d\x7d", .null)]
    let template := body "<\x7b\x7b q \x7d\x7d>"
    let t := (ofUrl .post "http://h/").withBody (.json template)
    ∃ request text, t.render store "server" = .ok request ∧ request.body = some text ∧
      Json.parse text = .ok (body ("<" ++ hostile ++ ">")) := by
  intro hostile store body template t
  have plain (s : String) : (body s).Plain Json.Reader.depthLimit := by
    have items : ∀ item ∈ [Json.number (.integer (-5)), .bool true, .string s],
        item.Plain 125 := by
      simp only [List.forall_mem_cons]
      exact ⟨.integer (by decide) (by decide), .bool true, .string s, List.forall_mem_nil _⟩
    have ordered : "a\"" < "\x7b\x7bq\x7d\x7d" := by decide +kernel
    refine show Json.Plain (126 + 1) (body s) from .object (List.pairwise_pair.2 ordered) ?_
    simp only [List.forall_mem_cons]
    exact ⟨.array items, .null, List.forall_mem_nil _⟩
  have bound : ∀ x ∈ Template.references template, (store.get? x).isSome := by decide +kernel
  obtain ⟨w, hw, -, h⟩ := parse_json_body (plain _) bound
  obtain ⟨rendered, parses⟩ := h t "server" rfl
  obtain ⟨request, hrequest⟩ := rendered.2 (by decide +kernel)
  obtain ⟨text, hbody, hparse, -⟩ := parses request hrequest
  have filled : Template.substitute store "<\x7b\x7b q \x7d\x7d>" = .ok ("<" ++ hostile ++ ">") :=
    toOption_eq_some_iff.1 (by decide +kernel)
  have same : w = body ("<" ++ hostile ++ ">") := by
    simp only [body, substituteJson, Template.substituteMembers, Template.substituteItems,
      filled] at hw
    exact (Except.ok.inj hw).symm
  exact ⟨request, text, hrequest, hbody, same ▸ hparse⟩

end Scenario.RequestTemplate

end ScenarioSuite
