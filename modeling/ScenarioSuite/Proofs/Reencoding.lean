import ScenarioSuite.Proofs.DirectiveText
import ScenarioSuite.Proofs.Records
import ScenarioSuite.Scenario.Definition

/-!
# Definitions written and read again

Much may be left out of a definition, be null or stand in a list without names. What is read is a
normal form, in which the status is one of 16 bits, a body in JSON is neither a text nor null, and
the directives are normal. Writing a normal form and reading it again gives the same definition.

## Main definitions

* `Definition.Normal`: the definitions that can be read.
* `Definition.Describes`: the scenario of a definition, part by part.

## Main statements

* `Definition.reads_iff_normal`: the normal forms are what can be read.
* `Definition.schema_toJson`: what has been read is read again from what is written for it.
-/

namespace ScenarioSuite

variable {α : Type}

/-! ## Parts of a definition -/

theorem Schema.ofJson_method (m : Http.Method) :
    (name Http.Method.named).ofJson (.string m.name) = .ok m := by
  cases m <;> rfl

namespace Scenario

theorem PropertyExpectation.ofJson_toJson (e : PropertyExpectation) :
    schema.ofJson e.toJson = .ok e := by
  refine Schema.ofJson_record (b := (e.path, e.value, ())) ?_ (Json.nodup_ofList _)
  simp [Fields.Found, Bindings.ofList, Schema.ofJson, Fields.has]

theorem HeaderExpectation.ofJson_toJson (e : HeaderExpectation) :
    schema.ofJson e.toJson = .ok e := by
  refine Schema.ofJson_record (b := (e.name, e.value, ())) ?_ (Json.nodup_ofList _)
  simp [Fields.Found, Bindings.ofList, Schema.ofJson_text, Fields.has]

/-! ## Definitions -/

/-- Bodies that can be read: a text, or a value that is no text and not null. -/
def BodyTemplate.Normal : BodyTemplate → Prop
  | .text _ => True
  | .json value => value ≠ .null ∧ ∀ s, value ≠ .string s

/-- Definitions that reading leaves as they are. -/
structure Definition.Normal (d : Definition) : Prop where
  status : ∀ status ∈ d.expect.status, status < 2 ^ 16
  body : ∀ body ∈ d.request.body, body.Normal
  capture : ∀ directive ∈ d.capture, directive.Normal

theorem BodyTemplate.normal_of_ofJson {body : BodyTemplate} {v : Json} (hv : v ≠ .null)
    (h : schema.ofJson v = .ok body) : body.Normal := by
  cases v with
  | null => exact absurd rfl hv
  | string s =>
    cases h
    trivial
  | _ =>
    cases h
    exact ⟨by simp, by simp⟩

theorem RequestTemplate.normal_body_of_reads {t : RequestTemplate} (h : schema.Reads t) :
    ∀ body ∈ t.body, body.Normal := by
  obtain ⟨⟨method, url, headers, body, u⟩, sourced, rfl⟩ := h.of_record
  obtain ⟨-, -, -, hbody, -⟩ := sourced
  rintro body' rfl
  rcases hbody with hbody | hbody
  · obtain ⟨v, hv, hread⟩ := hbody.of_optional
    exact BodyTemplate.normal_of_ofJson hv hread
  · cases hbody

theorem Expectations.status_of_reads {e : Expectations} (h : schema.Reads e) :
    ∀ status ∈ e.status, status < 2 ^ 16 := by
  obtain ⟨⟨status, properties, equals, headers, u⟩, ⟨hstatus, -⟩, rfl⟩ := h.of_record
  rintro status' rfl
  rcases hstatus with hstatus | hstatus
  · obtain ⟨v, -, hread⟩ := hstatus.of_optional
    exact Schema.Reads.of_natural ⟨v, hread⟩
  · cases hstatus

namespace Definition

theorem normal_of_directiveSchema_reads {directive : Capture.Directive}
    (h : directiveSchema.Reads directive) : directive.Normal := by
  obtain ⟨text, h⟩ := h.of_checked
  split at h
  · next directive' hparse =>
    cases h
    exact Capture.Directive.normal_of_parse hparse
  · cases h

theorem directiveSchema_ofJson_text {directive : Capture.Directive} (h : directive.Normal) :
    directiveSchema.ofJson (.string directive.text) = .ok directive := by
  simp [directiveSchema, Schema.ofJson, Schema.checkText, h.parse_text]

/-- What is read is in normal form. -/
theorem normal_of_reads {d : Definition} (h : schema.Reads d) : d.Normal := by
  obtain ⟨⟨name, request, expect, capture, u⟩, sourced, rfl⟩ := h.of_record
  obtain ⟨-, hrequest, hexpect, hcapture, -⟩ := sourced
  constructor
  · rcases hexpect with hexpect | hexpect
    · exact hexpect.elim fun v hv => Expectations.status_of_reads ⟨v, hv⟩
    · cases hexpect
      simp
  · rcases hrequest with hrequest | hrequest
    · exact RequestTemplate.normal_body_of_reads hrequest
    · cases hrequest
  · rcases hcapture with hcapture | hcapture
    · exact fun directive hmem => normal_of_directiveSchema_reads (hcapture.of_list directive hmem)
    · cases hcapture
      simp

end Definition

theorem Expectations.ofJson_toJson {e : Expectations} (h : ∀ status ∈ e.status, status < 2 ^ 16) :
    schema.ofJson e.toJson = .ok e := by
  refine Schema.ofJson_record (b := (e.status, e.properties, e.equals, e.headers, ())) ?_
    (Json.nodup_ofList _)
  have hproperties : (Schema.list .text).ofJson (.array (e.properties.map .string)) =
      .ok e.properties := Schema.ofJson_list fun s _ => Schema.ofJson_text s
  have hequals := Schema.ofJson_list fun p (_ : p ∈ e.equals) => p.ofJson_toJson
  have hheaders := Schema.ofJson_list fun p (_ : p ∈ e.headers) => p.ofJson_toJson
  cases hs : e.status with
  | none =>
    simp [Fields.Found, Bindings.ofList, Fields.has, Schema.ofJson_none, hproperties, hequals,
      hheaders]
  | some status =>
    have hstatus := Schema.ofJson_some (by simp [Json.ofNat]) (Schema.ofJson_natural (h status hs))
    simp [Fields.Found, Bindings.ofList, Fields.has, hstatus, hproperties, hequals, hheaders]

theorem BodyTemplate.ofJson_toJson {body : BodyTemplate} (h : body.Normal) :
    (Schema.optional schema).ofJson body.toJson = .ok (some body) := by
  cases body with
  | text s => rfl
  | json value =>
    obtain ⟨hnull, hstring⟩ := h
    refine Schema.ofJson_some hnull ?_
    cases value with
    | string s => exact absurd rfl (hstring s)
    | _ => rfl

theorem RequestTemplate.ofJson_toJson {t : RequestTemplate} (h : ∀ body ∈ t.body, body.Normal) :
    schema.ofJson t.toJson = .ok t := by
  refine Schema.ofJson_record (b := (t.method, t.url, t.headers, t.body, ())) ?_
    (Json.nodup_ofList _)
  cases hbody : t.body with
  | none =>
    simp [Fields.Found, Bindings.ofList, Bindings.get?, Fields.has, Schema.ofJson_method,
      Schema.ofJson_dict_text, Schema.ofJson_text, Schema.Absent.value?]
  | some body =>
    simp [Fields.Found, Bindings.ofList, Fields.has, Schema.ofJson_method,
      Schema.ofJson_dict_text, Schema.ofJson_text, BodyTemplate.ofJson_toJson (h body hbody)]

namespace Definition

/-- A normal form is read from what is written for it. -/
theorem Normal.ofJson_toJson {d : Definition} (h : d.Normal) : schema.ofJson d.toJson = .ok d := by
  refine Schema.ofJson_record (b := (d.name, d.request, d.expect, d.capture, ())) ?_
    (Json.nodup_ofList _)
  have hname : (Schema.optional .text).ofJson (.ofString? d.name) = .ok d.name := by
    cases d.name <;> rfl
  have hcapture := Schema.ofJson_list fun directive (hmem : directive ∈ d.capture) =>
    directiveSchema_ofJson_text (h.capture directive hmem)
  simp [Fields.Found, Bindings.ofList, Fields.has, hname, hcapture,
    RequestTemplate.ofJson_toJson h.body, Expectations.ofJson_toJson h.status]

/-- The normal forms are what can be read. -/
theorem reads_iff_normal {d : Definition} : schema.Reads d ↔ d.Normal :=
  ⟨normal_of_reads, fun h => ⟨d.toJson, h.ofJson_toJson⟩⟩

/-- The scenario of a definition under a name that counts if the definition has none or a blank
one. There are assertions on the status, then on properties, then on their values, then on headers,
and a teardown only if something is captured. -/
structure Describes (d : Definition) (fallback : String) (s : Scenario) : Prop where
  named : ∀ name ∈ d.name, (∃ c ∈ name.toList, ¬ Text.isBlank c) → s.name = name
  unnamed : (∀ name ∈ d.name, ∀ c ∈ name.toList, Text.isBlank c) → s.name = fallback
  request : s.request = d.request
  assertions : s.assertions =
    d.expect.status.toList.map .statusEquals ++ d.expect.properties.map .hasProperty ++
      d.expect.equals.map (fun e => .propertyEquals e.path e.value) ++
      d.expect.headers.map (fun e => .headerEquals e.name e.value)
  idle : d.capture = [] → s.teardown = .none
  captures : d.capture ≠ [] → s.teardown = .captures d.capture

theorem describes_scenario (d : Definition) (fallback : String) :
    d.Describes fallback (d.scenario fallback) where
  named := by
    intro name hname ⟨c, hc, solid⟩
    have filled : Text.isAllBlank name = false := List.all_eq_false.2 ⟨c, hc, solid⟩
    simp [scenario, nameOr, Option.mem_def.1 hname, filled]
  unnamed := by
    intro blank
    cases hname : d.name with
    | none => simp [scenario, nameOr, hname]
    | some name =>
      have blank : Text.isAllBlank name := List.all_eq_true.2 (blank name hname)
      simp [scenario, nameOr, hname, blank]
  request := rfl
  assertions := rfl
  idle := fun h => by simp [scenario, teardown, h]
  captures := fun h => by simp [scenario, teardown, h]

/-- Written and read again, a definition is the same, and describes the same scenario under any
name. -/
theorem schema_toJson {v : Json} {d : Definition} (h : schema.ofJson v = .ok d) :
    schema.ofJson d.toJson = .ok d ∧ ∀ fallback : String, ∃ s,
      (schema.ofJson d.toJson).map (·.scenario fallback) = .ok s ∧ s = d.scenario fallback ∧
        d.Describes fallback s := by
  have again : schema.ofJson d.toJson = .ok d := (reads_iff_normal.1 ⟨v, h⟩).ofJson_toJson
  refine ⟨again, fun fallback => ⟨d.scenario fallback, ?_, rfl, d.describes_scenario fallback⟩⟩
  rw [again]
  rfl

/-- A request in a list, a header given twice, a value that is null and directives in short form. -/
theorem schema_toJson_short :
    let v : Json := .object
      [("capture", .array [.string " token=data[0]", .string "id = headers. X-Id "]),
       ("request", .array [.string "POST", .string "/a",
          .object [("b", .string "1"), ("a", .string "2"), ("b", .string "3")],
          .array [.string "x"]]),
       ("expect", .object [("equals", .array [.array [.string "p", .null]]), ("status", .null)])]
    let d : Definition :=
      ⟨none, ⟨.post, "/a", .ofList [("a", "2"), ("b", "3")], some (.json (.array [.string "x"]))⟩,
       ⟨none, [], [⟨"p", .null⟩], []⟩, [⟨"token", .body "$.data[0]"⟩, ⟨"id", .header "X-Id"⟩]⟩
    schema.ofJson v = .ok d ∧ schema.ofJson d.toJson = .ok d ∧ ∀ fallback : String, ∃ s,
      (schema.ofJson d.toJson).map (·.scenario fallback) = .ok s ∧ s = d.scenario fallback ∧
        d.Describes fallback s := by
  intro v d
  have h : schema.ofJson v = .ok d := rfl
  exact ⟨h, schema_toJson h⟩

end Definition

end Scenario

end ScenarioSuite
