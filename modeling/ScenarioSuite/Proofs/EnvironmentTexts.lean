import ScenarioSuite.Environment.Basic
import ScenarioSuite.Proofs.SchemaTexts

/-!
# Environments written and read again

Environments are written with their names, the names of their variables and the values in quotes, so
any characters may stand in them. Maps are kept in no order of their own, so their members are
written in an order that nothing is known of. What is read is the same in every order.

## Main statements

* `Environments.parseJson_render_toJson`: environments are read again from what is written for them.
-/

namespace ScenarioSuite

open Json (Plain Rearranged)

theorem Environment.ofJson_toJson (e : Environment) : schema.ofJson e.toJson = .ok e := by
  refine Schema.ofJson_record (b := (e.name, e.values, ())) ?_ (Json.nodup_ofList _)
  simp [Fields.Found, Bindings.ofList, Fields.has, Schema.ofJson_text, Schema.ofJson_dict_text]

theorem Environment.plain_toJson {depth : Nat} (e : Environment) : Plain (depth + 2) e.toJson := by
  refine .objectOf ?_
  simp only [List.forall_mem_cons]
  exact ⟨.string e.name, .ofDict e.values, List.forall_mem_nil _⟩

namespace Environments

theorem ofJson_toJson (es : Environments) : schema.ofJson es.toJson = .ok es := by
  refine Schema.ofJson_record (b := (es.environments, es.shared, es.active, ())) ?_
    (Json.nodup_ofList _)
  have environments := Schema.ofJson_dict fun entry (_ : entry ∈ es.environments.entries) =>
    entry.2.ofJson_toJson
  cases hactive : es.active with
  | none =>
    simp [Fields.Found, Bindings.ofList, Bindings.get?, Fields.has, environments,
      Schema.ofJson_dict_text, Schema.Absent.value?]
  | some name =>
    have active := Schema.ofJson_some (by simp) (Schema.ofJson_text name)
    simp [Fields.Found, Bindings.ofList, Fields.has, environments, Schema.ofJson_dict_text, active]

theorem plain_toJson {depth : Nat} (es : Environments) : Plain (depth + 4) es.toJson := by
  have environments : Plain (depth + 3) (.object (es.environments.entries.map fun entry =>
      (entry.1, entry.2.toJson))) :=
    .entries fun entry _ => entry.2.plain_toJson
  refine .objectOf ?_
  cases es.active with
  | none =>
    simp only [List.cons_append, List.nil_append, List.forall_mem_cons]
    exact ⟨environments, .ofDict es.shared, List.forall_mem_nil _⟩
  | some name =>
    simp only [List.cons_append, List.nil_append, List.forall_mem_cons]
    exact ⟨environments, .ofDict es.shared, .string name, List.forall_mem_nil _⟩

/-- Environments are read again from every text that is written for them, whatever characters their
names and values hold and in whatever order members are written. -/
theorem parseJson_render_toJson {es : Environments} {v : Json} (h : Rearranged es.toJson v) :
    schema.parseJson v.render = .ok es ∧
      schema.parseJsonBytes (Text.Utf8.encode v.render) = .ok es := by
  have plain : Plain (123 + 4) es.toJson := es.plain_toJson
  have read := Schema.parseJson_render plain h es.ofJson_toJson
  exact ⟨read, (Schema.parseJsonBytes_encode ..).trans read⟩

/-- Two environments, of which the first in order is written last; quotes, a backslash, control
characters and characters of two and four bytes. -/
theorem parseJson_render_toJson_rearranged :
    let es : Environments :=
      ⟨⟨[("", ⟨"a", .empty⟩), ("b\"", ⟨"b\"", ⟨[("k", "\\"), ("é", "\n😀")], by decide⟩⟩)],
        by decide⟩, ⟨[("server", "\x01")], by decide⟩, some "b\""⟩
    let text := "\x7b\"environments\":\x7b\"b\\\"\":\x7b\"name\":\"b\\\"\"," ++
      "\"variables\":\x7b\"é\":\"\\n😀\",\"k\":\"\\\\\"\x7d\x7d,\"\":\x7b\"name\":\"a\"," ++
      "\"variables\":\x7b\x7d\x7d\x7d,\"shared\":\x7b\"server\":\"\\u0001\"\x7d," ++
      "\"active\":\"b\\\"\"\x7d"
    ∃ v, Rearranged es.toJson v ∧ v.render = text ∧ schema.parseJson text = .ok es := by
  intro es text
  let environment (name : String) (members : List (String × Json)) : Json :=
    .object [("name", .string name), ("variables", .object members)]
  let v : Json := .object
    [("environments", .object
      [("b\"", environment "b\"" [("é", .string "\n😀"), ("k", .string "\\")]),
       ("", environment "a" [])]),
     ("shared", .object [("server", .string "\x01")]), ("active", .string "b\"")]
  have first : Rearranged (Environment.toJson ⟨"a", .empty⟩) (environment "a" []) :=
    .objectOf (by decide) (.cons ⟨rfl, .string _⟩ (.cons ⟨rfl, .of_members (.refl _) .nil⟩ .nil))
  have second : Rearranged (Environment.toJson ⟨"b\"", ⟨[("k", "\\"), ("é", "\n😀")], by decide⟩⟩)
      (environment "b\"" [("é", .string "\n😀"), ("k", .string "\\")]) :=
    .objectOf (by decide) (.cons ⟨rfl, .string _⟩ (.cons ⟨rfl, .of_members (.swap ..)
      (.cons ⟨rfl, .string _⟩ (.cons ⟨rfl, .string _⟩ .nil))⟩ .nil))
  have rearranged : Rearranged es.toJson v :=
    .objectOf (by decide)
      (.cons ⟨rfl, .of_members (.swap ..) (.cons ⟨rfl, second⟩ (.cons ⟨rfl, first⟩ .nil))⟩
        (.cons ⟨rfl, .of_members (.refl _) (.cons ⟨rfl, .string _⟩ .nil)⟩
          (.cons ⟨rfl, .string _⟩ .nil)))
  have printed : v.render = text := by decide +kernel
  exact ⟨v, rearranged, printed, printed ▸ (parseJson_render_toJson rearranged).1⟩

end Environments

end ScenarioSuite
