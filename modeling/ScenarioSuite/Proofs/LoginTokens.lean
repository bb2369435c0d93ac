import ScenarioSuite.Proofs.Locations
import ScenarioSuite.Proofs.SchemaTexts
import ScenarioSuite.Scenario.Login

/-!
# The token of the owner

The scenario that comes with the library reads the tokens out of the bytes of the body by a schema.
A suite that does the same in a file has a capture, which reads the whole body as JSON and follows a
path. On bodies whose tokens are of their type the two ways leave the same: the token in the store,
or an error that the field is missing and the store as it was.

## Main definitions

* `Json.OptionalText`: what a token may be in a body.
* `Json.text?`: the token of a body.

## Main statements

* `Scenario.Tokens.ofResponse_ofJson`: the tokens in a JSON body.
* `Scenario.run_ownerLogin_capture`: the scenario and the capture leave the same.
-/

namespace ScenarioSuite

namespace Json

/-- A member that is not there, null or a text. -/
inductive OptionalText : Option Json → Prop where
  | absent : OptionalText none
  | null : OptionalText (some .null)
  | text (s : String) : OptionalText (some (.string s))

/-- The text that a member is. -/
def text? : Option Json → Option String
  | some (.string s) => some s
  | _ => none

theorem OptionalText.found {m : Option Json} : OptionalText m →
    match m with
    | some value => (Schema.optional .text).ofJson value = .ok (text? m)
    | none => (Schema.Absent.allowed (none : Option String)).value? = some (text? m)
  | .absent | .null | .text _ => rfl

end Json

namespace Scenario

open Capture (Directive extract)
open Json (OptionalText)

variable {members : List (String × Json)}

/-- The tokens in a JSON body, whatever else is in it. -/
theorem Tokens.ofResponse_ofJson (plain : Json.Plain Json.Reader.depthLimit (.object members))
    (access : OptionalText (Bindings.get? "access_token" members))
    (refresh : OptionalText (Bindings.get? "refresh_token" members)) (status : Nat)
    (request : Http.Labelled) :
    ofResponse (.ofJson status (.object members) request) =
      .ok ⟨Json.text? (Bindings.get? "access_token" members),
        Json.text? (Bindings.get? "refresh_token" members)⟩ := by
  have nodup : (members.map (·.1)).Nodup := by
    cases plain with
    | object ordered => exact ordered.nodup_keys
  have read : schema.ofJson (.object members) =
      .ok ⟨Json.text? (Bindings.get? "access_token" members),
        Json.text? (Bindings.get? "refresh_token" members)⟩ :=
    Schema.ofJson_record (b := (_, _, ())) ⟨access.found, rfl, refresh.found, rfl, trivial⟩ nodup
  have bytes := (schema.parseJsonBytes_encode _).trans
    (Schema.parseJson_render plain plain.rearranged read)
  rw [ofResponse, Http.Response.ofJson, bytes]

/-- What the capture finds at the place of the token in a JSON body. -/
theorem extract_token (plain : Json.Plain Json.Reader.depthLimit (.object members))
    (access : OptionalText (Bindings.get? "access_token" members)) (status : Nat)
    (request : Http.Labelled) :
    extract (.ofJson status (.object members) request) (.body "$.access_token") =
      match Json.text? (Bindings.get? "access_token" members) with
      | some token => .ok token
      | none => .error (.missingField "$.access_token") := by
  have steps : Json.Path.steps "$.access_token" = [.field "access_token"] := by decide +kernel
  have place : (Json.object members).at? "$.access_token" =
      Bindings.get? "access_token" members := by
    simp [Json.at?, steps, Json.follow?, Json.step?, Json.member?]
  rw [extract, Http.Response.json_ofJson plain]
  simp only [Capture.extractFrom, place]
  generalize Bindings.get? "access_token" members = m at access
  cases access <;> rfl

/-- What the scenario that comes with the library does with a JSON body. -/
theorem run_ownerLogin (plain : Json.Plain Json.Reader.depthLimit (.object members))
    (access : OptionalText (Bindings.get? "access_token" members))
    (refresh : OptionalText (Bindings.get? "refresh_token" members)) (status : Nat)
    (request : Http.Labelled) (store : Store) :
    ownerLogin.teardown.run (.ofJson status (.object members) request) store =
      match Json.text? (Bindings.get? "access_token" members) with
      | some token => (store.set ownerToken token, none)
      | none => (store, some (.missingField ownerToken "access_token")) := by
  have tokens := Tokens.ofResponse_ofJson plain access refresh status request
  rw [ownerLogin, Teardown.run, keepOwnerToken, tokens, ok_bind, Tokens.requireAccess]
  cases Json.text? (Bindings.get? "access_token" members) <;> rfl

/-- What the capture does with a JSON body. -/
theorem run_tokenCapture (plain : Json.Plain Json.Reader.depthLimit (.object members))
    (access : OptionalText (Bindings.get? "access_token" members)) (status : Nat)
    (request : Http.Labelled) (store : Store) :
    (Teardown.captures [⟨ownerToken, .body "$.access_token"⟩]).run
        (.ofJson status (.object members) request) store =
      match Json.text? (Bindings.get? "access_token" members) with
      | some token => (store.set ownerToken token, none)
      | none => (store, some (.missingField ownerToken "$.access_token")) := by
  rw [Teardown.run, Teardown.capture, extract_token plain access]
  cases Json.text? (Bindings.get? "access_token" members) <;> rfl

theorem parse_tokenCapture :
    Directive.parse "org_owner_token = $.access_token" =
      .ok ⟨ownerToken, .body "$.access_token"⟩ := by
  decide +kernel

/-- On bodies whose tokens are of their type, the scenario that comes with the library and the
capture in a file leave the same store. Both keep the token, or both find that it is missing and
leave the store as it was. -/
theorem run_ownerLogin_capture (plain : Json.Plain Json.Reader.depthLimit (.object members))
    (access : OptionalText (Bindings.get? "access_token" members))
    (refresh : OptionalText (Bindings.get? "refresh_token" members)) {d : Directive}
    (hd : Directive.parse "org_owner_token = $.access_token" = .ok d) (status : Nat)
    (request : Http.Labelled) (store : Store) :
    let response := Http.Response.ofJson status (.object members) request
    let builtIn := ownerLogin.teardown.run response store
    let captured := (Teardown.captures [d]).run response store
    builtIn.1 = captured.1 ∧
    ((∃ token, Bindings.get? "access_token" members = some (.string token) ∧
        builtIn = (store.set "org_owner_token" token, none) ∧ captured.2 = none) ∨
      ((∀ token, Bindings.get? "access_token" members ≠ some (.string token)) ∧
        builtIn = (store, some (.missingField "org_owner_token" "access_token")) ∧
        captured.2 = some (.missingField "org_owner_token" "$.access_token"))) := by
  intro response builtIn captured
  cases parse_tokenCapture.symm.trans hd
  have own : builtIn = _ := run_ownerLogin plain access refresh status request store
  have file : captured = _ := run_tokenCapture plain access status request store
  rw [own, file]
  generalize Bindings.get? "access_token" members = m at access
  cases access with
  | absent => exact ⟨rfl, .inr ⟨by simp, rfl, rfl⟩⟩
  | null => exact ⟨rfl, .inr ⟨by simp, rfl, rfl⟩⟩
  | text token => exact ⟨rfl, .inl ⟨token, rfl, rfl, rfl⟩⟩

/-- A token with quotes, a backslash and a control character, among further members that nest. -/
theorem run_ownerLogin_capture_nested :
    let members : List (String × Json) :=
      [("access_token", .string "a\"\\\t"), ("error", .array [.object [("a", .null)], .bool false]),
        ("expires_in", .number (.integer (-1))), ("refresh_token", .null)]
    let response := Http.Response.ofJson 401 (.object members) ⟨"", .ofUrl .post "/auth/token"⟩
    let store := Store.empty.set "org_owner_token" "old"
    let captured := (Teardown.captures [⟨ownerToken, .body "$.access_token"⟩]).run response store
    (ownerLogin.teardown.run response store).1 = captured.1 ∧
      captured.1.get? "org_owner_token" = some "a\"\\\t" := by
  intro members response store captured
  have ordered : Bindings.Ordered members := by decide +kernel
  have inner : Json.Plain 125 (.object [("a", .null)]) :=
    .object (List.pairwise_singleton ..) (List.forall_mem_singleton.2 .null)
  have items : ∀ item ∈ [Json.object [("a", .null)], .bool false], item.Plain 125 := by
    simp only [List.forall_mem_cons]
    exact ⟨inner, .bool false, List.forall_mem_nil _⟩
  have plain : Json.Plain (126 + 1) (.object members) := by
    refine .object ordered ?_
    simp only [members, List.forall_mem_cons]
    exact ⟨.string _, .array items, .integer (by decide) (by decide), .null, List.forall_mem_nil _⟩
  obtain ⟨same, ⟨token, htoken, own, -⟩ | ⟨none, -⟩⟩ := run_ownerLogin_capture plain (.text _) .null
    parse_tokenCapture 401 ⟨"", .ofUrl .post "/auth/token"⟩ store
  · cases htoken
    exact ⟨same, same ▸ own ▸ by decide +kernel⟩
  · exact absurd rfl (none _)

end Scenario

end ScenarioSuite
