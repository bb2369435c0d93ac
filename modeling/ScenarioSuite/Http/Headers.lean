import ScenarioSuite.Dict
import ScenarioSuite.Text.Fold

/-!
# Listed headers

A name is written as it stands and read in any case, so the headers of a reply may have several
spellings of the name that is asked for. The first of them in the listing is read. No order is
prescribed for a listing: it is part of what was replied.

## Main definitions

* `header?`: the value of a header in a listing.
* `Headers`: a listing that has each spelling once.
* `Headers.insert`: writes a header.
-/

namespace ScenarioSuite.Http

/-- The value of the first header of a listing whose name is the one asked for; the case of a name
does not matter. -/
def header? (listing : List (String × String)) (name : String) : Option String :=
  (listing.find? fun entry => Text.sameFold entry.1 name).map (·.2)

/-- Writes a value in the place of the one under the same spelling, or else at the end. -/
def write (name value : String) : List (String × String) → List (String × String)
  | [] => [(name, value)]
  | entry :: rest =>
    if entry.1 = name then (name, value) :: rest else entry :: write name value rest

theorem mem_keys_write {name value key : String} {listing : List (String × String)} :
    key ∈ (write name value listing).map (·.1) ↔ key = name ∨ key ∈ listing.map (·.1) := by
  induction listing with
  | nil => simp [write]
  | cons entry rest ih =>
    rw [write]
    split
    · next same => simp [same]
    · rw [List.map_cons, List.map_cons, List.mem_cons, List.mem_cons, ih, or_left_comm]

theorem nodup_write {name value : String} {listing : List (String × String)}
    (h : (listing.map (·.1)).Nodup) : ((write name value listing).map (·.1)).Nodup := by
  induction listing with
  | nil => simp [write]
  | cons entry rest ih =>
    obtain ⟨fresh, hrest⟩ := List.nodup_cons.1 h
    rw [write]
    split
    · next same => exact same ▸ h
    · next other =>
      refine List.nodup_cons.2 ⟨fun hmem => ?_, ih hrest⟩
      exact (mem_keys_write.1 hmem).elim other fresh

/-- Headers as they are listed, each spelling of a name once. -/
structure Headers where
  entries : List (String × String)
  nodup : (entries.map (·.1)).Nodup
deriving DecidableEq

namespace Headers

/-- No headers. -/
def empty : Headers := ⟨[], List.nodup_nil⟩

/-- Writes a header. -/
def insert (h : Headers) (name value : String) : Headers :=
  ⟨write name value h.entries, nodup_write h.nodup⟩

/-- The headers in the order of their names. -/
def toDict (h : Headers) : Dict String :=
  Dict.ofList h.entries

end Headers

end ScenarioSuite.Http
