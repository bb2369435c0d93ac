import ScenarioSuite.Proofs.SourceReals
import ScenarioSuite.Proofs.SourceSchemas
import ScenarioSuite.Suite.Load

/-!
# Scenario files in JSON

A scenario file in JSON is read as YAML. Not every JSON text means the same in YAML, but one that is
written with a little care does.

## Main statements

* `loadFile_surrogatePair`: a definition in JSON that YAML refuses.
* `loadFile_json`: what is portable, and a definition in JSON, is loaded as this definition.
-/

namespace ScenarioSuite.Suite

open Scenario (Definition)

/-- A definition in JSON whose file is refused: in a string, JSON writes a character beyond U+FFFF
as two escapes, of which YAML accepts neither. -/
theorem loadFile_surrogatePair :
    let text := "\x7b\"name\": \"\\ud83d\\ude00\", \"request\": \x7b\"method\": \"GET\", " ++
      "\"url\": \"/\"\x7d\x7d"
    let fs : FileSystem := ⟨.directory [("a.json", .file (Text.Utf8.encode text))], []⟩
    (∃ d, Definition.schema.parseJson text = .ok d ∧ (d.scenario "a").name = "😀") ∧
      ∃ e, loadFile fs "a.json" = .error e := by
  intro text fs
  have parsed : ((Definition.schema.parseJson text).toOption.map fun d => (d.scenario "a").name) =
      some "😀" := by decide +kernel
  have refused : ((loadFile fs "a.json").toOption.map fun s => s.name) = none := by decide +kernel
  obtain ⟨d, hd, hname⟩ := Option.map_eq_some_iff.1 parsed
  exact ⟨⟨d, toOption_eq_some_iff.1 hd, hname⟩,
    toOption_eq_none_iff.1 (Option.map_eq_none_iff.1 refused)⟩

/-- A file whose text is portable, and a definition in JSON, is loaded as the scenario that the
definition describes. -/
theorem loadFile_json {fs : FileSystem} {path : Path} {f : Json.File}
    (holds : fs.readText path = .ok f.text) (portable : f.isPortable)
    (portable' : Definition.schema.Portable f.root) {d : Definition}
    (defines : Definition.schema.parseJson f.text = .ok d) :
    loadFile fs path = .ok (d.scenario (fallbackName path)) := by
  have read := Schema.parseYaml_text portable portable' defines
  rw [loadFile, holds]
  simp only [loadText, read]

/-- YAML takes integers and real numbers of few digits for what they are. -/
theorem agrees_of_literals {src : Json.Source}
    (h : ∀ l ∈ src.literals, (∃ n, l.value? = some (.integer n)) ∨ l.Short) : src.Agrees := by
  intro l hl
  obtain ⟨n, integer⟩ | short := h l hl
  · exact Json.Literal.agrees_of_integer integer
  · exact Json.Literal.agrees_of_short short

open Json (Piece)

/-- Characters that stand for themselves, as pieces of a string. -/
def plainPieces (s : String) : List Piece :=
  s.toList.filterMap fun c => if plain : _ then some (.raw c plain) else none

/-- The number -12.50E+2. -/
def total : Json.Literal :=
  ⟨true, 12, some ⟨['5', '0'], List.all_eq_true.1 rfl⟩,
    some ⟨'E', .inr rfl, some false, ⟨['2'], List.all_eq_true.1 rfl⟩⟩⟩

theorem short_total : total.Short where
  isReal := .inl rfl
  length_le := by decide
  ne_nil := by simp [total]
  power_le := by decide

/-- A text over several lines with escapes, tabs inside it, a real number, and a number that no
field wants. -/
def layeredFile : Json.File where
  before := [.newline, .space]
  root := .object [.tab]
    (.cons [] (plainPieces "request") [.tab] [.carriageReturn, .newline, .space]
      (.object []
        (.cons [] (plainPieces "url") [] [.space]
          (.string (.letter '/' '/' rfl :: plainPieces "caf" ++
            [.number ⟨'0', 0, rfl⟩ ⟨'0', 0, rfl⟩ ⟨'e', 14, rfl⟩ ⟨'9', 9, rfl⟩])) []
        (.cons [.newline, .tab] (plainPieces "method") [] [] (.string (plainPieces "GET")) []
          .nil))) [.tab]
    (.cons [] (plainPieces "expect") [] [.space]
      (.object []
        (.cons [] (plainPieces "status") [] [.newline] (.number ⟨false, 200, none, none⟩)
          [.carriageReturn]
        (.cons [] (plainPieces "equals") [] [.space]
          (.array [] (.cons []
            (.object []
              (.cons [] (plainPieces "path") [] [] (.string (plainPieces "$.total")) []
              (.cons [] (plainPieces "value") [] [.tab] (.number total) [] .nil))) [] .nil)) []
          .nil))) []
    (.cons [.space] (plainPieces "weight") [] []
      (.array [] (.cons [.space] (.number ⟨true, 1, none, some ⟨'e', .inl rfl, none,
        ⟨['9', '9', '9'], List.all_eq_true.1 rfl⟩⟩⟩) [.newline] .nil)) []
      .nil)))
  after := [.newline]

theorem portable_layeredFile : Definition.schema.Portable layeredFile.root := by
  have request : Json.spelled (plainPieces "request") = "request" := by decide +kernel
  have url : Json.spelled (plainPieces "url") = "url" := by decide +kernel
  have method : Json.spelled (plainPieces "method") = "method" := by decide +kernel
  have expect : Json.spelled (plainPieces "expect") = "expect" := by decide +kernel
  have status : Json.spelled (plainPieces "status") = "status" := by decide +kernel
  have weight : Json.spelled (plainPieces "weight") = "weight" := by decide +kernel
  have equals : Json.spelled (plainPieces "equals") = "equals" := by decide +kernel
  have path : Json.spelled (plainPieces "path") = "path" := by decide +kernel
  have value : Json.spelled (plainPieces "value") = "value" := by decide +kernel
  have agrees : (Json.Source.number total).Agrees :=
    agrees_of_literals fun l hl => .inr (List.mem_singleton.1 hl ▸ short_total)
  simp [-Prod.forall, layeredFile, Definition.schema, Scenario.RequestTemplate.schema,
    Scenario.Expectations.schema, Schema.Portable, Fields.Portable, Json.Source.isArray,
    Json.Source.members, Json.Members.entries, Json.Source.isString, request, url, method, expect,
    status, weight, equals, path, value, agrees, Scenario.PropertyExpectation.schema,
    Json.Source.items, Json.Items.sources]

theorem loadFile_json_layered :
    let fs : FileSystem :=
      ⟨.directory [("menu.json", .file (Text.Utf8.encode layeredFile.text))], []⟩
    ∃ d, Definition.schema.parseJson layeredFile.text = .ok d ∧
      (d.scenario "menu").request.url = "/café" ∧
      loadFile fs "menu.json" = .ok (d.scenario "menu") := by
  intro fs
  have parsed : ((Definition.schema.parseJson layeredFile.text).toOption.map
      fun d => (d.scenario "menu").request.url) = some "/café" := by decide +kernel
  have holds : (fs.readText "menu.json").toOption = some layeredFile.text := by decide +kernel
  obtain ⟨d, hd, hurl⟩ := Option.map_eq_some_iff.1 parsed
  have defines := toOption_eq_some_iff.1 hd
  have named : fallbackName "menu.json" = "menu" := by decide +kernel
  have loaded := loadFile_json (toOption_eq_some_iff.1 holds) (by decide +kernel)
    portable_layeredFile defines
  rw [named] at loaded
  exact ⟨d, defines, hurl, loaded⟩

end ScenarioSuite.Suite
