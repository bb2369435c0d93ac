import ScenarioSuite.Config
import ScenarioSuite.Proofs.JsonText
import ScenarioSuite.Proofs.Records

/-!
# Settings

A file of settings names those that differ from the standard ones. Each setting has a name and a
type of its own, and three of them are checked again when all have been filled in. None of this lets
one setting decide about another: a file is accepted if each setting in it can be used, and then
each field holds what its own setting says. A configuration that has been accepted is accepted
again, for the same one, when it is written with all its settings.

## Main definitions

* `Json.Setting`: what a setting says, or its standard value.
* `Config.Accepted`: settings that can all be used.
* `Config.Overlay`: the configuration that settings describe.
* `Config.Usable`: configurations that can be written and read again.

## Main statements

* `Config.load_object_eq_ok_iff`: what settings are loaded for.
* `Config.load_object`: which settings are accepted, for what, and that this is stable.
-/

namespace ScenarioSuite

/-! ## One setting -/

namespace Json

variable {α : Type} {members : List (String × Json)} {name : String} {standard value : α}

/-- The value is what the member of the name says, or the standard one if there is none. -/
def Setting (members : List (String × Json)) (name : String) (Means : Json → α → Prop)
    (standard value : α) : Prop :=
  match Bindings.get? name members with
  | some v => Means v value
  | none => value = standard

variable {Means : Json → α → Prop}

theorem exists_setting_iff : (∃ value, Setting members name Means standard value) ↔
    ∀ v ∈ Bindings.get? name members, ∃ value, Means v value := by
  unfold Setting
  cases Bindings.get? name members <;> simp

/-- A field with a standard value is read as a setting. -/
theorem found_iff_setting {schema : Schema α}
    (means : ∀ {v a}, schema.ofJson v = .ok a ↔ Means v a) :
    (match Bindings.get? name members with
      | some v => schema.ofJson v = .ok value
      | none => (Schema.Absent.standard standard).value? = some value) ↔
      Setting members name Means standard value := by
  unfold Setting
  cases Bindings.get? name members with
  | some v => exact means
  | none => simp [Schema.Absent.value?, eq_comm]

/-- A check of all values, which the standard one passes, only concerns what is read. -/
theorem found_and_iff_setting {schema : Schema α} {p : α → Prop} (h : p standard)
    (means : ∀ {v a}, schema.ofJson v = .ok a ∧ p a ↔ Means v a) :
    ((match Bindings.get? name members with
      | some v => schema.ofJson v = .ok value
      | none => (Schema.Absent.standard standard).value? = some value) ∧ p value) ↔
      Setting members name Means standard value := by
  unfold Setting
  cases Bindings.get? name members with
  | some v => exact means
  | none =>
    have absent : (Schema.Absent.standard standard).value? = some value ↔ value = standard := by
      simp [Schema.Absent.value?, eq_comm]
    rw [absent]
    exact ⟨And.left, fun heq => ⟨heq, heq ▸ h⟩⟩

end Json

namespace Config

open Json (Plain Rearranged Setting found_iff_setting found_and_iff_setting)

variable {members : List (String × Json)} {c : Config}

/-! ## What settings say -/

/-- A text with a character that is not blank. -/
def IsFilled (s : String) : Prop :=
  ∃ ch ∈ s.toList, ¬ Text.isBlank ch

/-- An object of texts; the last of one name counts. -/
def IsHeaders (v : Json) (headers : Dict String) : Prop :=
  ∃ pairs : List (String × String),
    v = .object (pairs.map fun pair => (pair.1, .string pair.2)) ∧ headers = .ofList pairs

/-- Each setting that is there can be used. -/
structure Accepted (members : List (String × Json)) : Prop where
  timeout : ∀ v ∈ Bindings.get? "timeout" members, ∃ n, v = .ofNat n ∧ 0 < n ∧ n < 2 ^ 64
  followRedirects : ∀ v ∈ Bindings.get? "followRedirects" members, ∃ b, v = .bool b
  maxRedirects : ∀ v ∈ Bindings.get? "maxRedirects" members, ∃ n, v = .ofNat n ∧ n < 2 ^ 32
  validateSsl : ∀ v ∈ Bindings.get? "validateSsl" members, ∃ b, v = .bool b
  defaultHeaders : ∀ v ∈ Bindings.get? "defaultHeaders" members, ∃ headers, IsHeaders v headers
  environmentFile : ∀ v ∈ Bindings.get? "environmentFile" members, ∃ s, v = .string s ∧ IsFilled s
  environment : ∀ v ∈ Bindings.get? "environment" members, ∃ s? : Option String, v = .ofString? s?
  baseUrlVariable : ∀ v ∈ Bindings.get? "baseUrlVariable" members, ∃ s, v = .string s ∧ IsFilled s

/-- Each field holds what its own setting says, or the standard value. -/
structure Overlay (members : List (String × Json)) (c : Config) : Prop where
  timeout : Setting members "timeout" (fun v n => v = .ofNat n ∧ 0 < n ∧ n < 2 ^ 64)
    standard.timeout c.timeout
  followRedirects : Setting members "followRedirects" (fun v b => v = .bool b)
    standard.followRedirects c.followRedirects
  maxRedirects : Setting members "maxRedirects" (fun v n => v = .ofNat n ∧ n < 2 ^ 32)
    standard.maxRedirects c.maxRedirects
  validateSsl : Setting members "validateSsl" (fun v b => v = .bool b)
    standard.validateSsl c.validateSsl
  defaultHeaders : Setting members "defaultHeaders" IsHeaders
    standard.defaultHeaders c.defaultHeaders
  environmentFile : Setting members "environmentFile" (fun v s => v = .string s ∧ IsFilled s)
    standard.environmentFile c.environmentFile
  environment : Setting members "environment" (fun v s? => v = .ofString? s?)
    standard.environment c.environment
  baseUrlVariable : Setting members "baseUrlVariable" (fun v s => v = .string s ∧ IsFilled s)
    standard.baseUrlVariable c.baseUrlVariable

/-- Settings that can all be used describe a configuration, field by field. -/
theorem exists_overlay_iff : (∃ c, Overlay members c) ↔ Accepted members := by
  constructor
  · rintro ⟨c, h⟩
    exact
      { timeout := Json.exists_setting_iff.1 ⟨_, h.timeout⟩
        followRedirects := Json.exists_setting_iff.1 ⟨_, h.followRedirects⟩
        maxRedirects := Json.exists_setting_iff.1 ⟨_, h.maxRedirects⟩
        validateSsl := Json.exists_setting_iff.1 ⟨_, h.validateSsl⟩
        defaultHeaders := Json.exists_setting_iff.1 ⟨_, h.defaultHeaders⟩
        environmentFile := Json.exists_setting_iff.1 ⟨_, h.environmentFile⟩
        environment := Json.exists_setting_iff.1 ⟨_, h.environment⟩
        baseUrlVariable := Json.exists_setting_iff.1 ⟨_, h.baseUrlVariable⟩ }
  · intro h
    obtain ⟨timeout, htimeout⟩ := Json.exists_setting_iff.2 h.timeout
    obtain ⟨followRedirects, hfollow⟩ := Json.exists_setting_iff.2 h.followRedirects
    obtain ⟨maxRedirects, hmax⟩ := Json.exists_setting_iff.2 h.maxRedirects
    obtain ⟨validateSsl, hssl⟩ := Json.exists_setting_iff.2 h.validateSsl
    obtain ⟨defaultHeaders, hheaders⟩ := Json.exists_setting_iff.2 h.defaultHeaders
    obtain ⟨environmentFile, hfile⟩ := Json.exists_setting_iff.2 h.environmentFile
    obtain ⟨environment, hname⟩ := Json.exists_setting_iff.2 h.environment
    obtain ⟨baseUrlVariable, hbase⟩ := Json.exists_setting_iff.2 h.baseUrlVariable
    exact ⟨⟨timeout, followRedirects, maxRedirects, validateSsl, defaultHeaders, environmentFile,
      environment, baseUrlVariable⟩, htimeout, hfollow, hmax, hssl, hheaders, hfile, hname, hbase⟩

/-! ## Loading -/

theorem not_isAllBlank_iff {s : String} : Text.isAllBlank s = false ↔ IsFilled s := by
  simp [Text.isAllBlank, IsFilled]

theorem fault?_eq_none_iff : c.fault? = none ↔
    0 < c.timeout ∧ IsFilled c.environmentFile ∧ IsFilled c.baseUrlVariable := by
  simp only [← not_isAllBlank_iff, Nat.pos_iff_ne_zero]
  unfold fault?
  split
  · simp_all
  split
  · simp_all
  split <;> simp_all

theorem load_eq_ok_iff {v : Json} : load v = .ok c ↔ schema.ofJson v = .ok c ∧ c.fault? = none := by
  unfold load check
  cases schema.ofJson v with
  | error m => simp
  | ok c' =>
    simp only [Except.ok.injEq]
    cases h : c'.fault? with
    | none => simp; rintro rfl; exact h
    | some fault => simp; rintro rfl; simp [h]

theorem ofJson_headers_eq_ok_iff {v : Json} {headers : Dict String} :
    (Schema.dict .text).ofJson v = .ok headers ↔ IsHeaders v headers := by
  cases v with
  | object members =>
    have same (pairs : List (String × String)) :
        List.Forall₂ (fun m b => b.1 = m.1 ∧ Schema.text.ofJson m.2 = .ok b.2) members pairs ↔
          members = pairs.map fun pair => (pair.1, Json.string pair.2) := by
      rw [← List.forall₂_eq_eq_eq, List.forall₂_map_right_iff]
      simp only [Schema.ofJson_text_eq_ok_iff, Prod.ext_iff, @eq_comm String]
    simp only [Schema.ofJson_dict_eq_ok_iff, same, IsHeaders, Json.object.injEq,
      @eq_comm (Dict String)]
  | _ => simp [Schema.ofJson, IsHeaders]

theorem timeout_iff {v : Json} {n : Nat} : (Schema.natural 64).ofJson v = .ok n ∧ 0 < n ↔
    v = .ofNat n ∧ 0 < n ∧ n < 2 ^ 64 := by
  rw [Schema.ofJson_natural_eq_ok_iff, and_assoc, @and_comm (n < 2 ^ 64)]

theorem filled_iff {v : Json} {s : String} :
    Schema.text.ofJson v = .ok s ∧ IsFilled s ↔ v = .string s ∧ IsFilled s := by
  rw [Schema.ofJson_text_eq_ok_iff]

/-- What settings are loaded for. -/
theorem load_object_eq_ok_iff (nodup : (members.map (·.1)).Nodup) :
    load (.object members) = .ok c ↔ Overlay members c := by
  have file : IsFilled standard.environmentFile := not_isAllBlank_iff.1 (by decide)
  have base : IsFilled standard.baseUrlVariable := not_isAllBlank_iff.1 (by decide)
  rw [load_eq_ok_iff, schema, Schema.ofJson_record_eq_ok_iff (by decide) nodup, fault?_eq_none_iff]
  constructor
  · rintro ⟨⟨b, ⟨htimeout, -, hfollow, -, hmax, -, hssl, -, hheaders, -, hfile, -, hname, -, hbase,
      -⟩, rfl⟩, positive, filled, filled'⟩
    exact
      { timeout := (found_and_iff_setting (by decide) timeout_iff).1 ⟨htimeout, positive⟩
        followRedirects := (found_iff_setting Schema.ofJson_flag_eq_ok_iff).1 hfollow
        maxRedirects := (found_iff_setting Schema.ofJson_natural_eq_ok_iff).1 hmax
        validateSsl := (found_iff_setting Schema.ofJson_flag_eq_ok_iff).1 hssl
        defaultHeaders := (found_iff_setting ofJson_headers_eq_ok_iff).1 hheaders
        environmentFile := (found_and_iff_setting file filled_iff).1 ⟨hfile, filled⟩
        environment := (found_iff_setting Schema.ofJson_optional_text_eq_ok_iff).1 hname
        baseUrlVariable := (found_and_iff_setting base filled_iff).1 ⟨hbase, filled'⟩ }
  · intro h
    obtain ⟨htimeout, positive⟩ := (found_and_iff_setting (by decide) timeout_iff).2 h.timeout
    obtain ⟨hfile, filled⟩ := (found_and_iff_setting file filled_iff).2 h.environmentFile
    obtain ⟨hbase, filled'⟩ := (found_and_iff_setting base filled_iff).2 h.baseUrlVariable
    have hfollow := (found_iff_setting Schema.ofJson_flag_eq_ok_iff).2 h.followRedirects
    have hmax := (found_iff_setting Schema.ofJson_natural_eq_ok_iff).2 h.maxRedirects
    have hssl := (found_iff_setting Schema.ofJson_flag_eq_ok_iff).2 h.validateSsl
    have hheaders := (found_iff_setting ofJson_headers_eq_ok_iff).2 h.defaultHeaders
    have hname := (found_iff_setting Schema.ofJson_optional_text_eq_ok_iff).2 h.environment
    exact ⟨⟨(c.timeout, c.followRedirects, c.maxRedirects, c.validateSsl, c.defaultHeaders,
      c.environmentFile, c.environment, c.baseUrlVariable, ()), ⟨htimeout, rfl, hfollow, rfl, hmax,
      rfl, hssl, rfl, hheaders, rfl, hfile, rfl, hname, rfl, hbase, rfl, trivial⟩, rfl⟩, positive,
      filled, filled'⟩

/-! ## Writing and loading again -/

/-- Configurations that can be written and loaded again. -/
structure Usable (c : Config) : Prop where
  timeout : c.timeout < 2 ^ 64
  maxRedirects : c.maxRedirects < 2 ^ 32
  check : c.fault? = none

/-- The standard values pass the checks of what is loaded. -/
theorem usable_standard : standard.Usable where
  timeout := by decide
  maxRedirects := by decide
  check := by decide

/-- What is loaded can be used, be it from an object or from an array. -/
theorem usable_of_load {v : Json} (h : load v = .ok c) : c.Usable := by
  obtain ⟨h, check⟩ := load_eq_ok_iff.1 h
  obtain ⟨b, ⟨htimeout, -, hmax, -⟩, rfl⟩ := Schema.Reads.of_record ⟨v, h⟩
  have timeout : b.1 < 2 ^ 64 := by
    rcases htimeout with read | absent
    · exact read.of_natural
    · exact Option.some.inj absent ▸ usable_standard.timeout
  have maxRedirects : b.2.2.1 < 2 ^ 32 := by
    rcases hmax with read | absent
    · exact read.of_natural
    · exact Option.some.inj absent ▸ usable_standard.maxRedirects
  exact ⟨timeout, maxRedirects, check⟩

theorem Usable.load_toJson (h : c.Usable) : load c.toJson = .ok c := by
  refine load_eq_ok_iff.2 ⟨Schema.ofJson_record (b := (c.timeout, c.followRedirects, c.maxRedirects,
    c.validateSsl, c.defaultHeaders, c.environmentFile, c.environment, c.baseUrlVariable, ())) ?_
    (Json.nodup_ofList _), h.check⟩
  have name := Schema.ofJson_optional_text_eq_ok_iff.2 (Eq.refl (Json.ofString? c.environment))
  simp [Fields.Found, Bindings.ofList, Fields.has, Schema.ofJson_natural h.timeout,
    Schema.ofJson_natural h.maxRedirects, Schema.ofJson_flag_eq_ok_iff.2, Schema.ofJson_dict_text,
    Schema.ofJson_text, name]

theorem Usable.plain_toJson {depth : Nat} (h : c.Usable) : Plain (depth + 2) c.toJson := by
  have natural {n : Nat} (h : n < 2 ^ 64) : Plain (depth + 1) (.ofNat n) :=
    .integer (by omega) (by omega)
  have name : Plain (depth + 1) (.ofString? c.environment) := by
    cases c.environment with
    | none => exact .null
    | some s => exact .string s
  refine .objectOf ?_
  simp only [List.forall_mem_cons]
  exact ⟨natural h.timeout, .bool _, natural (Nat.lt_trans h.maxRedirects (by decide)), .bool _,
    .ofDict _, .string _, name, .string _, List.forall_mem_nil _⟩

/-- Settings are accepted if each of them that is known can be used. Each field then holds what its
own setting says, or the standard value if there is none. The configuration is loaded again from
what is written for it, as a value and as a text with its members in any order. -/
theorem load_object (nodup : (members.map (·.1)).Nodup) :
    ((∃ c, load (.object members) = .ok c) ↔ Accepted members) ∧
    ∀ c, load (.object members) = .ok c →
      Overlay members c ∧ load c.toJson = .ok c ∧
      ∀ v, Rearranged c.toJson v → Json.parse v.render = .ok c.toJson := by
  refine ⟨?_, fun c h => ?_⟩
  · simp only [load_object_eq_ok_iff nodup]
    exact exists_overlay_iff
  · have usable := usable_of_load h
    have plain : Plain (125 + 2) c.toJson := usable.plain_toJson
    exact ⟨(load_object_eq_ok_iff nodup).1 h, usable.load_toJson, fun v hv =>
      Json.parse_render_of_rearranged plain hv⟩

/-- Settings at the ends of their ranges, null, and a name in other letters. -/
theorem load_object_extremes :
    let members : List (String × Json) :=
      [("TIMEOUT", .string "never"), ("defaultHeaders", .object [("X-Key", .string "")]),
        ("environment", .null), ("environmentFile", .string " e "), ("maxRedirects", .ofNat 0),
        ("timeout", .ofNat 18446744073709551615)]
    let c : Config :=
      { standard with
        timeout := 18446744073709551615
        maxRedirects := 0
        defaultHeaders := .ofList [("X-Key", "")]
        environmentFile := " e " }
    load (.object members) = .ok c ∧ load c.toJson = .ok c ∧
      Json.parse c.toJson.render = .ok c.toJson := by
  intro members c
  have overlay : Overlay members c :=
    { timeout := ⟨rfl, by decide, by decide⟩
      followRedirects := rfl
      maxRedirects := ⟨rfl, by decide⟩
      validateSsl := rfl
      defaultHeaders := ⟨[("X-Key", "")], rfl, rfl⟩
      environmentFile := ⟨rfl, 'e', by decide, by decide⟩
      environment := rfl
      baseUrlVariable := rfl }
  have nodup : (members.map (·.1)).Nodup := by decide
  have loaded : load (.object members) = .ok c := (load_object_eq_ok_iff nodup).2 overlay
  obtain ⟨-, stable⟩ := load_object nodup
  obtain ⟨-, again, texts⟩ := stable c loaded
  have plain : Plain (125 + 2) c.toJson := (usable_of_load loaded).plain_toJson
  exact ⟨loaded, again, texts _ plain.rearranged⟩

end Config

end ScenarioSuite
