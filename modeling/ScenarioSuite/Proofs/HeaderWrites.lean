import ScenarioSuite.Capture.Extraction
import ScenarioSuite.Proofs.Seeding
import ScenarioSuite.Scenario.Assertion

/-!
# Headers written and read

A header is written under its name as it stands, and its value is replaced only under that spelling.
It is read without regard to case, so what has been written under two spellings of a name stays side
by side, and a read finds the first of them in the order in which the headers are listed. The value
is the last one of some spelling; it is sure to be the one written last only if all spellings agree
on their last values.

## Main definitions

* `Http.latest?`: the value written last under any spelling of a name.
* `Http.Keeps`: a listing has the last value written under each spelling.
* `Http.Settled`: all spellings of a name agree on their last values.
* `Http.Sees`: what can be read after some writes.

## Main statements

* `Http.Keeps.sees`, `Http.Keeps.forall_header?_iff`: reading in every order.
* `Http.Headers.keeps_insertAll`: what a listing has after some writes.
* `Http.settled_of_oneSpelling`, `Http.header?_eq_of_perm`: spellings agree where there is only one,
  and then the order does not matter.
* `Http.header?_of_writes`: reading from requests and responses.
* `Http.header?_of_twoSpellings`: a read that misses the last write.
-/

namespace ScenarioSuite

open Text (sameFold)

namespace Http

variable {history listing order : List (String × String)} {m : String}

/-- The value written last under any spelling of the name. -/
def latest? (m : String) (history : List (String × String)) : Option String :=
  ((history.filter fun write => sameFold write.1 m).getLast?).map (·.2)

/-- A listing has each spelling that was written, with the value last written under it. -/
def Keeps (listing history : List (String × String)) : Prop :=
  ∀ {name value : String}, (name, value) ∈ listing ↔ lastValue? name history = some value

/-- Each spelling of the name was last written with the value written last of all. -/
def Settled (m : String) (history : List (String × String)) : Prop :=
  ∀ write ∈ history, sameFold write.1 m → lastValue? write.1 history = latest? m history

/-- What is read after some writes: nothing only if the name was never written, and otherwise the
last value of some spelling. -/
structure Sees (m : String) (history : List (String × String)) (value? : Option String) : Prop where
  absent : value? = none ↔ ∀ write ∈ history, ¬ sameFold write.1 m
  last : ∀ value ∈ value?, ∃ write ∈ history, sameFold write.1 m ∧
    lastValue? write.1 history = some value
  latest : Settled m history → value? = latest? m history

theorem latest?_eq_none_iff :
    latest? m history = none ↔ ∀ write ∈ history, ¬ sameFold write.1 m := by
  simp [latest?]

/-- In whatever order headers are listed, a read sees the last value of some spelling. -/
theorem Keeps.sees (keeps : Keeps listing history) (m : String) :
    Sees m history (header? listing m) := by
  have absent : header? listing m = none ↔ ∀ write ∈ history, ¬ sameFold write.1 m := by
    rw [header?, Option.map_eq_none_iff, List.find?_eq_none]
    constructor
    · intro h write hwrite
      obtain ⟨value, hvalue⟩ := exists_lastValue? hwrite
      exact h (write.1, value) (keeps.2 hvalue)
    · intro h entry hentry
      exact h entry (mem_of_lastValue? (keeps.1 hentry))
  have last : ∀ value ∈ header? listing m, ∃ write ∈ history, sameFold write.1 m ∧
      lastValue? write.1 history = some value := by
    intro value hvalue
    obtain ⟨entry, hentry, rfl⟩ := Option.map_eq_some_iff.1 hvalue
    have written := keeps.1 (List.mem_of_find?_eq_some hentry)
    have same : sameFold entry.1 m := by simpa using List.find?_some hentry
    exact ⟨entry, mem_of_lastValue? written, same, written⟩
  refine ⟨absent, last, fun settled => ?_⟩
  cases hvalue : header? listing m with
  | none => exact (latest?_eq_none_iff.2 (absent.1 hvalue)).symm
  | some value =>
    obtain ⟨write, hwrite, same, written⟩ := last value hvalue
    exact written.symm.trans (settled write hwrite same)

/-- Spellings agree where there is only one. -/
theorem settled_of_oneSpelling {name : String}
    (h : ∀ write ∈ history, sameFold write.1 m → write.1 = name) : Settled m history := by
  intro write hwrite same
  obtain rfl := h write hwrite same
  have spelled : ∀ other ∈ history, decide (other.1 = write.1) = sameFold other.1 m := by
    refine fun other hother => Bool.eq_iff_iff.2 ⟨fun heq => ?_, fun heq => ?_⟩
    · rwa [of_decide_eq_true heq]
    · exact decide_eq_true (h other hother heq)
  rw [lastValue?, latest?, List.filter_congr spelled]

/-- A read is sure to see the last write exactly if all spellings agree. -/
theorem Keeps.forall_header?_iff (keeps : Keeps listing history) :
    (∀ order, listing.Perm order → header? order m = latest? m history) ↔ Settled m history := by
  constructor
  · intro h write hwrite same
    -- This spelling may be the one that is listed first.
    obtain ⟨value, hvalue⟩ := exists_lastValue? hwrite
    rw [hvalue, ← h _ (List.perm_cons_erase (keeps.2 hvalue))]
    simp [header?, same]
  · intro settled order perm
    have kept : Keeps order history := fun {_ _} => perm.mem_iff.symm.trans keeps
    exact (kept.sees m).latest settled

/-- The order of a listing matters only to a name that it has several spellings of. -/
theorem header?_eq_of_perm (perm : listing.Perm order) (nodup : (listing.map (·.1)).Nodup)
    (single : ∀ a ∈ listing, ∀ b ∈ listing, sameFold a.1 m → sameFold b.1 m → a.1 = b.1) :
    header? order m = header? listing m := by
  have keeps : Keeps listing listing := fun {_ _} => (lastValue?_eq_some_iff nodup).symm
  have settled : Settled m listing := by
    intro write hwrite same
    exact settled_of_oneSpelling (fun other hother heq => single other hother write hwrite heq same)
      write hwrite same
  rw [keeps.forall_header?_iff.2 settled order perm,
    keeps.forall_header?_iff.2 settled listing (.refl _)]

/-! ## Writing into a listing -/

theorem mem_write {name value key v : String} {listing : List (String × String)}
    (nodup : (listing.map (·.1)).Nodup) :
    (key, v) ∈ write name value listing ↔
      if key = name then v = value else (key, v) ∈ listing := by
  induction listing with
  | nil => by_cases h : key = name <;> simp [write, h]
  | cons entry rest ih =>
    obtain ⟨fresh, hrest⟩ := List.nodup_cons.1 nodup
    obtain ⟨k, w⟩ := entry
    rw [write]
    split
    · next same =>
      -- The rest has no other entry of this name.
      obtain rfl : k = name := same
      have absent : (k, v) ∉ rest := fun h => fresh (List.mem_map.2 ⟨_, h, rfl⟩)
      by_cases h : key = k
      · subst h; simp [absent]
      · simp [h]
    · next other =>
      have other : k ≠ name := other
      rw [List.mem_cons, List.mem_cons, ih hrest]
      by_cases h : key = name
      · subst h; simp [Ne.symm other]
      · simp [h]

/-- The headers with more written into them, one after the other. -/
def Headers.insertAll (h : Headers) (writes : List (String × String)) : Headers :=
  writes.foldl (fun h write => h.insert write.1 write.2) h

/-- A write makes its value the last one of the name. -/
theorem Headers.lastValue?_insert (h : Headers) (name value x : String) :
    lastValue? x (h.insert name value).entries = lastValue? x (h.entries ++ [(name, value)]) := by
  refine Option.ext fun v => ?_
  rw [lastValue?_eq_some_iff (h.insert name value).nodup, lastValue?_append,
    lastValue?_singleton]
  refine (mem_write h.nodup).trans ?_
  by_cases same : x = name
  · simp [same, eq_comm]
  · simpa [same] using (lastValue?_eq_some_iff h.nodup).symm

theorem Headers.keeps_insertAll (h : Headers) (writes : List (String × String)) :
    Keeps (h.insertAll writes).entries (h.entries ++ writes) := by
  induction writes generalizing h with
  | nil =>
    rw [List.append_nil]
    exact fun {_ _} => (lastValue?_eq_some_iff h.nodup).symm
  | cons write writes ih =>
    intro name value
    rw [List.append_cons, lastValue?_append, ← h.lastValue?_insert, ← lastValue?_append]
    exact ih (h.insert write.1 write.2)

theorem keeps_insertAll (d : Dict String) (writes : List (String × String)) :
    Keeps (d.insertAll writes).entries (d.entries ++ writes) := by
  intro name value
  rw [← Dict.get?_eq_some_iff, Dict.get?_insertAll_eq_lastValue?]

/-! ## Requests and responses -/

/-- The request with more headers, one after the other. -/
def Request.addHeaders (r : Request) (writes : List (String × String)) : Request :=
  writes.foldl (fun r write => r.addHeader write.1 write.2) r

/-- The response with more headers, one after the other. -/
def Response.addHeaders (r : Response) (writes : List (String × String)) : Response :=
  writes.foldl (fun r write => r.addHeader write.1 write.2) r

theorem Request.headers_addHeaders (r : Request) (writes : List (String × String)) :
    (r.addHeaders writes).headers = r.headers.insertAll writes := by
  induction writes generalizing r with
  | nil => rfl
  | cons write writes ih => exact ih (r.addHeader write.1 write.2)

theorem Response.headers_addHeaders (r : Response) (writes : List (String × String)) :
    (r.addHeaders writes).headers = r.headers.insertAll writes := by
  induction writes generalizing r with
  | nil => rfl
  | cons write writes ih => exact ih (r.addHeader write.1 write.2)

theorem Request.keeps_addHeaders (r : Request) (writes : List (String × String)) :
    Keeps (r.addHeaders writes).headers.entries (r.headers.entries ++ writes) :=
  r.headers_addHeaders writes ▸ keeps_insertAll r.headers writes

theorem Response.keeps_addHeaders (r : Response) (writes : List (String × String)) :
    Keeps (r.addHeaders writes).headers.entries (r.headers.entries ++ writes) :=
  r.headers_addHeaders writes ▸ r.headers.keeps_insertAll writes

open Capture (extract)
open Scenario (Assertion)

theorem toOption_extract_header (r : Response) (m : String) :
    (extract r (.header m)).toOption = r.header? m := by
  rw [extract]
  cases r.header? m <;> rfl

theorem check_headerEquals {r : Response} {expected : String} :
    (Assertion.headerEquals m expected).check r = none ↔
      ∃ actual ∈ r.header? m, Assertion.headerMatches actual expected := by
  simp only [Assertion.check]
  cases r.header? m <;> simp

/-- Reading a header of a request or a response that headers were added to, be it by itself, for a
capture or for a check. There is none only if none was added under any spelling of its name, and the
value is the last one of some spelling. It is the one added last, in whatever order the headers are
listed, exactly if all spellings agree on their last values. -/
theorem header?_of_writes (request : Request) (response : Response)
    (writes : List (String × String)) (m : String) :
    let sent := request.headers.entries ++ writes
    let received := response.headers.entries ++ writes
    let request := request.addHeaders writes
    let response := response.addHeaders writes
    Sees m sent (request.header? m) ∧
    Sees m received (response.header? m) ∧
    Sees m received (extract response (.header m)).toOption ∧
    (∀ expected, (Assertion.headerEquals m expected).check response = none ↔
      ∃ actual ∈ response.header? m, Assertion.headerMatches actual expected) ∧
    ((∀ order, request.headers.entries.Perm order → header? order m = latest? m sent) ↔
      Settled m sent) ∧
    ((∀ order, response.headers.entries.Perm order → header? order m = latest? m received) ↔
      Settled m received) := by
  intro sent received request' response'
  have sent_keeps : Keeps request'.headers.entries sent := request.keeps_addHeaders writes
  have received_keeps : Keeps response'.headers.entries received := response.keeps_addHeaders writes
  have sees : Sees m received (response'.header? m) := received_keeps.sees m
  refine ⟨sent_keeps.sees m, sees, ?_, fun expected => check_headerEquals,
    sent_keeps.forall_header?_iff, received_keeps.forall_header?_iff⟩
  rwa [toOption_extract_header]

/-- A second spelling of the name that a JSON response has a header under: reading finds the first
value. -/
theorem header?_of_twoSpellings :
    let response := Response.ofJson 200 .null ⟨"", .ofUrl .get ""⟩
    let writes := [("content-type", "text/plain")]
    latest? "content-type" (response.headers.entries ++ writes) = some "text/plain" ∧
      (response.addHeaders writes).header? "content-type" = some "application/json" := by
  decide +kernel

end Http

end ScenarioSuite
