import ScenarioSuite.Proofs.ByteOrder
import ScenarioSuite.Proofs.References
import ScenarioSuite.Scenario.Template

/-!
# What rendering reads, and which headers it keeps

Rendering reads the references of a template in order: the base variable of a relative address, the
address, each header in the order of the unrendered names, and the body. Two headers may come to
one name; the one with the greater unrendered name is rendered later and stays.

## Main definitions

* `RequestTemplate.withHeaders`: a template with several headers added in order.
* `GreatestHeader`: the value of the greatest of the headers that come to a name.

## Main statements

* `RequestTemplate.reads_render`: rendering reads the references and nothing else.
* `RequestTemplate.get?_renderHeaders`: which header has the name in the end.
* `RequestTemplate.render_correct`: both, and that the order of insertion does not matter.
-/

namespace ScenarioSuite.Scenario

open Store (Reads)
open Template (substitute placeholders reads_substitute reads_substituteJson)
open Text.Utf8 (encode encode_lt_encode_iff encode_le_encode_iff)

theorem BodyTemplate.reads_render (body : BodyTemplate) :
    Reads body.references fun s => body.render s := by
  cases body with
  | text template => exact reads_substitute template
  | json value => exact (reads_substituteJson value).map Json.render

/-- Of the entries whose names come to `name` there is a greatest one, in the order of the bytes,
and its value comes to `value`. -/
def GreatestHeader (store : Store) (entries : List (String × String)) (name value : String) :
    Prop :=
  ∃ raw ∈ entries, substitute store raw.1 = .ok name ∧ substitute store raw.2 = .ok value ∧
    ∀ other ∈ entries, substitute store other.1 = .ok name → encode other.1 ≤ encode raw.1

/-- The greatest header of a name is among the later entries, or none of them comes to the name and
it is the first entry. -/
theorem greatestHeader_cons_iff {store : Store} {raw : String × String}
    {rest : List (String × String)} (ordered : Bindings.Ordered (raw :: rest))
    {name value : String} :
    GreatestHeader store (raw :: rest) name value ↔
      GreatestHeader store rest name value ∨
        (∀ other ∈ rest, substitute store other.1 ≠ .ok name) ∧
          substitute store raw.1 = .ok name ∧ substitute store raw.2 = .ok value := by
  have above : ∀ other ∈ rest, raw.1 < other.1 := (List.pairwise_cons.1 ordered).1
  simp only [GreatestHeader, encode_le_encode_iff]
  constructor
  · rintro ⟨kept, mem, hname, hvalue, greatest⟩
    rcases List.mem_cons.1 mem with rfl | mem
    · refine .inr ⟨fun other hother hsame => ?_, hname, hvalue⟩
      exact greatest other (List.mem_cons_of_mem _ hother) hsame (above other hother)
    · exact .inl ⟨kept, mem, hname, hvalue,
        fun other hother => greatest other (List.mem_cons_of_mem _ hother)⟩
  · rintro (⟨kept, mem, hname, hvalue, greatest⟩ | ⟨none, hname, hvalue⟩)
    · refine ⟨kept, List.mem_cons_of_mem _ mem, hname, hvalue, fun other hother hsame => ?_⟩
      rcases List.mem_cons.1 hother with rfl | hother
      · exact String.lt_asymm (above kept mem)
      · exact greatest other hother hsame
    · refine ⟨raw, List.mem_cons_self, hname, hvalue, fun other hother hsame => ?_⟩
      rcases List.mem_cons.1 hother with rfl | hother
      · exact String.le_refl _
      · exact absurd hsame (none other hother)

namespace RequestTemplate

theorem reads_renderTrimmedUrl (base url : String) :
    Reads ((if isRelative url then [base] else []) ++ placeholders url)
      fun s => renderTrimmedUrl s base url := by
  unfold renderTrimmedUrl
  cases isRelative url with
  | true => exact (Reads.get base).bind fun value => (reads_substitute url).map (baseOf value ++ ·)
  | false => exact reads_substitute url

theorem reads_renderHeaders (entries : List (String × String)) (headers : Dict String) :
    Reads (entries.flatMap fun entry => placeholders entry.1 ++ placeholders entry.2)
      fun s => renderHeaders s entries headers := by
  induction entries generalizing headers with
  | nil => exact .ok headers
  | cons entry rest ih =>
    rw [List.flatMap_cons, List.append_assoc]
    exact (reads_substitute entry.1).bind fun name => (reads_substitute entry.2).bind fun value =>
      ih (headers.insert name value)

/-- Rendering reads the references of the template and nothing else. -/
theorem reads_render (t : RequestTemplate) (base : String) :
    Reads (t.references base) fun s => t.render s base := by
  have order : t.references base = _ ++ (_ ++ _) := List.append_assoc ..
  simp only [order, render_eq]
  refine (reads_renderTrimmedUrl base (Text.trim t.url)).bind fun url =>
    (reads_renderHeaders t.headers.entries Dict.empty).bind fun headers => ?_
  cases t.body with
  | none => exact .ok _
  | some body => exact (body.reads_render.map some).map (Http.Request.mk t.method url headers)

/-- The header of a name is that of the greatest unrendered name which comes to it. Since entries
are in increasing order, the last one that is rendered is the greatest. -/
theorem get?_renderHeaders {store : Store} {entries : List (String × String)}
    {before after : Dict String} (ordered : Bindings.Ordered entries)
    (h : renderHeaders store entries before = .ok after) (name value : String) :
    after.get? name = some value ↔
      GreatestHeader store entries name value ∨
        (∀ raw ∈ entries, substitute store raw.1 ≠ .ok name) ∧ before.get? name = some value := by
  induction entries generalizing before with
  | nil =>
    cases h
    simp [GreatestHeader]
  | cons entry rest ih =>
    rw [renderHeaders, bind_eq_ok_iff] at h
    obtain ⟨name', hn, h⟩ := h
    obtain ⟨value', hv, h⟩ := bind_eq_ok_iff.1 h
    rw [ih (List.pairwise_cons.1 ordered).2 h, greatestHeader_cons_iff ordered, Dict.get?_insert]
    by_cases heq : name = name'
    · simp [heq, hn, hv]
    · simp [heq, Ne.symm heq, hn]

/-- The template with headers added in order. -/
def withHeaders (t : RequestTemplate) (pairs : List (String × String)) : RequestTemplate :=
  pairs.foldl (fun t pair => t.withHeader pair.1 pair.2) t

theorem withHeaders_eq (t : RequestTemplate) (pairs : List (String × String)) :
    t.withHeaders pairs = { t with headers := t.headers.insertAll pairs } := by
  induction pairs generalizing t with
  | nil => rfl
  | cons pair rest ih => exact ih (t.withHeader pair.1 pair.2)

/-- Headers of different names can be added in any order. -/
theorem withHeaders_congr (t : RequestTemplate) {xs ys : List (String × String)}
    (h : ∀ name, (xs.filter fun x => x.1 = name) = ys.filter fun y => y.1 = name) :
    t.withHeaders xs = t.withHeaders ys := by
  have headers : t.headers.insertAll xs = t.headers.insertAll ys :=
    Dict.ext_get? fun name => by rw [Dict.get?_insertAll, Dict.get?_insertAll, h]
  rw [withHeaders_eq, withHeaders_eq, headers]

/-- A request that is rendered has the address and the headers that are rendered. -/
theorem parts_of_render {t : RequestTemplate} {store : Store} {base : String}
    {request : Http.Request} (h : t.render store base = .ok request) :
    renderUrl store base t.url = .ok request.url ∧
      renderHeaders store t.headers.entries Dict.empty = .ok request.headers := by
  rw [render_eq] at h
  obtain ⟨url, hurl, h⟩ := bind_eq_ok_iff.1 h
  obtain ⟨headers, hheaders, h⟩ := bind_eq_ok_iff.1 h
  cases hbody : t.body with
  | none =>
    rw [hbody] at h
    cases h
    exact ⟨hurl, hheaders⟩
  | some body =>
    rw [hbody] at h
    obtain ⟨rendered, -, h⟩ := bind_eq_ok_iff.1 h
    cases h
    exact ⟨hurl, hheaders⟩

theorem render_eq_ok {t : RequestTemplate} {store : Store} {base : String}
    {request : Http.Request} (h : t.render store base = .ok request) :
    renderHeaders store t.headers.entries Dict.empty = .ok request.headers :=
  (parts_of_render h).2

/-- Rendering fails on exactly the first reference without a value and reads nothing but its
references, among which the headers are in the order of the bytes of their unrendered names. It
does not matter in which order they are listed, nor in which order they are added as long as those
with one name keep theirs. Of the headers that come to one name the one with the greatest unrendered
name is kept. -/
theorem render_correct (t : RequestTemplate) (base : String) (store : Store) :
    ((∃ request, t.render store base = .ok request) ↔
      ∀ x ∈ t.references base, (store.get? x).isSome) ∧
    (∀ e, t.render store base = .error e ↔ store.firstUnbound? (t.references base) = some e) ∧
    (∀ other : Store, (∀ x ∈ t.references base, store.get? x = other.get? x) →
      t.render store base = t.render other base) ∧
    (t.headers.entries.Pairwise fun a b => encode a.1 < encode b.1) ∧
    (∀ listing, t.headers.entries.Perm listing →
      t.renderListed listing store base = t.render store base) ∧
    (∀ xs ys : List (String × String),
      (∀ name, (xs.filter fun x => x.1 = name) = ys.filter fun y => y.1 = name) →
      (t.withHeaders xs).render store base = (t.withHeaders ys).render store base) ∧
    ∀ request, t.render store base = .ok request → ∀ name value,
      request.headers.get? name = some value ↔
        GreatestHeader store t.headers.entries name value := by
  have reads := t.reads_render base
  refine ⟨reads.ok_iff store, reads.error_iff store, reads.congr store, ?_, ?_, ?_, ?_⟩
  · exact t.headers.ordered.imp encode_lt_encode_iff.2
  · exact fun listing perm => renderListed_eq_render perm store base
  · intro xs ys h
    rw [t.withHeaders_congr h]
  · intro request h name value
    simpa using get?_renderHeaders t.headers.ordered (render_eq_ok h) name value

/-- Of two headers that come to one name the one with the greater unrendered name is kept. -/
theorem render_correct_collision :
    let store := Store.ofList [("a", "K"), ("b", "K")]
    let t := (ofUrl .get "http://h/").withHeaders
      [("X-\x7b\x7bb\x7d\x7d", "kept"), ("X-\x7b\x7ba\x7d\x7d", "lost")]
    ∃ request, t.render store "server" = .ok request ∧
      request.headers.get? "X-K" = some "kept" := by
  intro store t
  obtain ⟨ok_iff, -, -, -, -, -, headers⟩ := t.render_correct "server" store
  have bound : ∀ x ∈ t.references "server", (store.get? x).isSome := by decide +kernel
  obtain ⟨request, h⟩ := ok_iff.2 bound
  refine ⟨request, h, (headers request h "X-K" "kept").2 ?_⟩
  have name : substitute store "X-\x7b\x7bb\x7d\x7d" = .ok "X-K" :=
    toOption_eq_some_iff.1 (by decide +kernel)
  have value : substitute store "kept" = .ok "kept" := toOption_eq_some_iff.1 (by decide +kernel)
  refine ⟨("X-\x7b\x7bb\x7d\x7d", "kept"), by decide +kernel, name, value, ?_⟩
  have greatest : ∀ other ∈ t.headers.entries, other.1 ≤ "X-\x7b\x7bb\x7d\x7d" := by
    decide +kernel
  exact fun other mem _ => encode_le_encode_iff.2 (greatest other mem)

end RequestTemplate

end ScenarioSuite.Scenario
