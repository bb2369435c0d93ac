import ScenarioSuite.Proofs.Seeding

/-!
# The selected environment

Environments come from a file, or are empty at first, and may be changed after that. Whatever is
done to them, each is kept under its own name and the active one is among them: a file is turned
down if its active environment is missing, an environment can only become active if it is there,
and none is ever taken away. So without a selection there are always variables, and a run can end
for want of an environment only if one was asked for by its name.

## Main definitions

* `Environments.Change`, `Environments.apply`: what can be done to environments.
* `Environments.Obtained`: where environments come from.
* `Environments.Sound`: each is kept under its name, and the active one is there.

## Main statements

* `Environments.Sound.apply`, `Environments.Sound.foldl`: one change, and any number of them.
* `Environments.Obtained.sound`: what a file gives.
* `Environments.get?_seeds?`: the variables of a selection.
* `CommandLine.seeds?_after_changes`: all of this, and when a run wants for an environment.
-/

namespace ScenarioSuite

namespace Environments

/-- What can be done to environments. -/
inductive Change where
  /-- Adds an environment. -/
  | add (e : Environment)
  /-- Makes an environment the active one, if it is there. -/
  | activate (name : String)
  /-- Gives a shared variable a value. -/
  | share (key value : String)

/-- The environments after a change. -/
def apply (es : Environments) : Change → Environments
  | .add e => es.add e
  | .activate name => (es.setActive name).2
  | .share key value => es.setShared key value

/-- The environments that there are at first: none, those of a file, or those of the file that is
found from a directory. -/
inductive Obtained : Environments → Prop where
  | empty : Obtained .empty
  | loaded {fs : FileSystem} {path : Path} {es : Environments} (h : load fs path = .ok es) :
      Obtained es
  | discovered {fs : FileSystem} {directory name : Path} {es : Environments}
      (h : discover fs directory name = .ok es) : Obtained es

/-- Each environment is kept under its name. -/
def Named (es : Environments) : Prop :=
  ∀ key e, es.get? key = some e → e.name = key

/-- Each environment is kept under its name, and the active one is among them. -/
structure Sound (es : Environments) : Prop where
  named : es.Named
  active : ∀ name, es.active = some name → (es.get? name).isSome

variable {es : Environments}

@[simp] theorem get?_add (es : Environments) (e : Environment) (name : String) :
    (es.add e).get? name = if name = e.name then some e else es.get? name :=
  Dict.get?_insert ..

theorem setActive_of_isSome {name : String} (there : (es.get? name).isSome) :
    es.setActive name = (true, { es with active := some name }) :=
  if_pos there

/-- Environments stay as they are if the one to become active is not there. -/
theorem setActive_of_none {name : String} (missing : es.get? name = none) :
    es.setActive name = (false, es) :=
  if_neg (Option.not_isSome_iff_eq_none.2 missing)

theorem fst_setActive_eq_false_iff {name : String} :
    (es.setActive name).1 = false ↔ es.get? name = none := by
  cases h : es.get? name with
  | none => simp [setActive_of_none h]
  | some e => simp [setActive_of_isSome (Option.isSome_of_eq_some h)]

/-! ## Changes -/

theorem Named.add (named : es.Named) (e : Environment) : (es.add e).Named := by
  intro key e' h
  rw [get?_add] at h
  by_cases heq : key = e.name
  · rw [if_pos heq] at h
    cases h
    exact heq.symm
  · rw [if_neg heq] at h
    exact named key e' h

theorem sound_empty : Sound .empty :=
  ⟨fun _ _ h => (by cases h), fun _ h => (by cases h)⟩

/-- A change keeps each environment under its name and the active one in place. -/
theorem Sound.apply (sound : es.Sound) (change : Change) : (es.apply change).Sound := by
  cases change with
  | add e =>
    refine ⟨sound.named.add e, fun name h => ?_⟩
    have there := sound.active name h
    show ((es.add e).get? name).isSome
    rw [get?_add]
    split
    · rfl
    · exact there
  | activate name =>
    cases h : es.get? name with
    | none =>
      rw [Environments.apply, setActive_of_none h]
      exact sound
    | some e =>
      have there : (es.get? name).isSome := Option.isSome_of_eq_some h
      rw [Environments.apply, setActive_of_isSome there]
      refine ⟨sound.named, fun other hother => ?_⟩
      obtain rfl : name = other := Option.some.inj hother
      exact there
  | share key value => exact ⟨sound.named, sound.active⟩

theorem Sound.foldl (sound : es.Sound) (changes : List Change) :
    (changes.foldl Environments.apply es).Sound := by
  induction changes generalizing es with
  | nil => exact sound
  | cons change changes ih => exact ih (sound.apply change)

/-! ## Files -/

/-- Taking in a member of a file keeps environments under their names. -/
theorem Named.addMember (named : es.Named) {key : String} {value : Json} {es' : Environments}
    (h : es.addMember key value = .ok es') : es'.Named := by
  unfold Environments.addMember at h
  split at h
  · obtain ⟨shared, -, h⟩ := bind_eq_ok_iff.1 h
    cases h
    exact named
  split at h
  · split at h
    · cases h
      exact named
    · cases h
  split at h
  · obtain ⟨values, -, h⟩ := bind_eq_ok_iff.1 h
    cases h
    exact named.add ⟨key, values⟩
  · cases h

theorem Named.foldlM (named : es.Named) {members : List (String × Json)} {es' : Environments}
    (h : members.foldlM (fun es (key, value) => Environments.addMember es key value) es = .ok es') :
    es'.Named := by
  induction members generalizing es with
  | nil =>
    cases h
    exact named
  | cons m members ih =>
    rw [List.foldlM_cons] at h
    obtain ⟨next, hnext, h⟩ := bind_eq_ok_iff.1 h
    exact ih (named.addMember hnext) h

/-- The active environment is checked when all members have been taken in. -/
theorem sound_of_ofFileJson {json : Json} (h : ofFileJson json = .ok es) : es.Sound := by
  refine ⟨?_, fun name active => has_of_ofFileJson h active⟩
  unfold ofFileJson at h
  split at h
  · obtain ⟨taken, htaken, hcheck⟩ := bind_eq_ok_iff.1 h
    obtain ⟨rfl, -⟩ := checkActive_eq_ok_iff.1 hcheck
    exact Named.foldlM sound_empty.named htaken
  · cases h

theorem Obtained.sound (h : Obtained es) : es.Sound := by
  have loaded {fs : FileSystem} {path : Path} {es : Environments}
      (h : load fs path = .ok es) : es.Sound := by
    obtain ⟨json, hjson⟩ := exists_json_of_load h
    exact sound_of_ofFileJson hjson
  cases h with
  | empty => exact sound_empty
  | loaded h => exact loaded h
  | discovered h =>
    unfold discover at h
    split at h
    · exact loaded h
    · cases h
      exact sound_empty

/-! ## The variables of a selection -/

/-- A variable of a selection has its value in the selected environment, or failing that in the
active one, and the shared value if it has none there. -/
theorem get?_seeds? {selected : Option String} {seeds : Dict String}
    (h : es.seeds? selected = some seeds) (x : String) :
    seeds.get? x =
      (((selected.or es.active).bind es.get?).bind (·.get? x)).or (es.shared.get? x) := by
  unfold seeds? at h
  cases hname : selected.or es.active with
  | none =>
    rw [hname] at h
    cases h
    rfl
  | some name =>
    rw [hname] at h
    obtain ⟨e, he, rfl⟩ := Option.map_eq_some_iff.1 h
    rw [Dict.get?_merge, Option.bind_some, he]
    rfl

end Environments

namespace CommandLine

open Environments (Change Obtained)

variable {fs : FileSystem}

theorem load_ne_unknownEnvironment {path : Path} {name : String} :
    Environments.load fs path ≠ .error (.unknownEnvironment name) := by
  unfold Environments.load Environments.ofFileText
  intro h
  split at h
  · cases h
  split at h
  · cases h
  split at h
  · cases h
  split at h <;> cases h

/-- What is wanting is an environment that was asked for by its name. -/
theorem firstFault_unknownEnvironment_iff {a : RunArguments} {name : String} :
    FirstFault fs a (.environment (.unknownEnvironment name)) ↔
      ∃ config es, loadConfig fs a.configFile = .ok config ∧
        loadEnvironments fs config a.directory a.environmentFile = .ok es ∧
        a.environment.or config.environment = some name ∧ es.get? name = none := by
  constructor
  · intro fault
    cases fault with
    | environments _ _ bad => exact absurd bad load_ne_unknownEnvironment
    | selection hconfig henvironments selected unknown =>
      exact ⟨_, _, hconfig, henvironments, selected, unknown⟩
  · rintro ⟨config, es, hconfig, henvironments, selected, unknown⟩
    exact .selection hconfig henvironments selected unknown

theorem listFiles_ne_unknownEnvironment {directory : Path} {name : String}
    {configFile : Option Path} :
    listFiles fs directory configFile ≠ .error (.environment (.unknownEnvironment name)) := by
  unfold listFiles
  intro h
  obtain h | ⟨config, -, h⟩ := bind_eq_error_iff.1 h
  · obtain ⟨file, cause, -, -, heq⟩ := loadConfig_eq_error_iff.1 h
    cases heq
  · split at h <;> cases h

/-- A command line wants for an environment if it runs a suite, and the environment that it or the
settings ask for is not there. -/
theorem execute_eq_unknownEnvironment_iff {σ : Type} {client : Http.Client σ} {state : σ}
    {arguments : List String} {name : String} :
    (execute fs client state arguments).1 = .failed (.environment (.unknownEnvironment name)) ↔
      ∃ a config es, Invocation.parse arguments = .ok (.run a) ∧
        loadConfig fs a.configFile = .ok config ∧
        loadEnvironments fs config a.directory a.environmentFile = .ok es ∧
        a.environment.or config.environment = some name ∧ es.get? name = none := by
  unfold execute
  cases hparse : Invocation.parse arguments with
  | error reason => simp
  | ok invocation =>
    cases invocation with
    | run a =>
      rw [execute_eq_failed_iff, firstFault_unknownEnvironment_iff]
      simp
    | list directory configFile =>
      have never := @listFiles_ne_unknownEnvironment fs directory name configFile
      simp only [Invocation.execute]
      cases hlist : listFiles fs directory configFile with
      | error cause =>
        rw [hlist] at never
        simpa using never
      | ok paths => simp

/-- Environments that come from a file, or from none, are sound after any changes. An environment
becomes active if it is there, and otherwise this is reported and nothing changes. Without a
selection there are variables; with one there are variables unless the environment is missing; and
they are those of the environment in front of the shared ones. A command line wants for an
environment if and only if it runs a suite and the environment that it or the settings ask for is
not there. -/
theorem seeds?_after_changes {start : Environments} (obtained : Obtained start)
    (changes : List Change) :
    let es := changes.foldl Environments.apply start
    (∀ key e, es.get? key = some e → e.name = key) ∧
    (∀ name, es.active = some name → (es.get? name).isSome) ∧
    (∀ name, (es.setActive name).1 = false ↔ es.get? name = none) ∧
    (∀ name, (es.setActive name).1 = false → es.apply (.activate name) = es) ∧
    (∀ name, (es.get? name).isSome →
      es.apply (.activate name) = { es with active := some name }) ∧
    (es.seeds? none).isSome ∧
    (∀ name, es.seeds? (some name) = none ↔ es.get? name = none) ∧
    (∀ selected seeds, es.seeds? selected = some seeds → ∀ x, seeds.get? x =
      (((selected.or es.active).bind es.get?).bind (·.get? x)).or (es.shared.get? x)) ∧
    ∀ (fs : FileSystem) {σ : Type} (client : Http.Client σ) (state : σ) (arguments : List String)
      (name : String),
      (execute fs client state arguments).1 = .failed (.environment (.unknownEnvironment name)) ↔
        ∃ a config loaded, Invocation.parse arguments = .ok (.run a) ∧
          loadConfig fs a.configFile = .ok config ∧
          loadEnvironments fs config a.directory a.environmentFile = .ok loaded ∧
          a.environment.or config.environment = some name ∧ loaded.get? name = none := by
  intro es
  have sound : es.Sound := obtained.sound.foldl changes
  refine ⟨sound.named, sound.active, fun _ => Environments.fst_setActive_eq_false_iff, ?_, ?_,
    Environments.isSome_seeds?_none sound.active, fun _ => Environments.seeds?_some_eq_none_iff,
    fun _ _ => Environments.get?_seeds?, fun _ _ _ _ _ _ => execute_eq_unknownEnvironment_iff⟩
  · intro name refused
    have missing := Environments.fst_setActive_eq_false_iff.1 refused
    rw [Environments.apply, Environments.setActive_of_none missing]
  · intro name there
    rw [Environments.apply, Environments.setActive_of_isSome there]

/-- The active environment of a file is replaced by one of its name, and another one becomes active
after one that is missing could not. -/
theorem seeds?_after_changes_replaced :
    let file := Text.Utf8.encode ("\x7b\"$active\":\"live\",\"dev\":\x7b\"server\":\"3\"\x7d," ++
      "\"live\":\x7b\"id\":4\x7d,\"shared\":\x7b\"server\":\"1\",\"org\":\"7\"\x7d\x7d")
    let fs : FileSystem := ⟨.directory [("env.json", .file file)], []⟩
    ∃ start, Environments.load fs "env.json" = .ok start ∧ Obtained start ∧
      let live := [Change.add (.ofName "live"), .share "id" "5"].foldl Environments.apply start
      let dev := [Change.add (.ofName "live"), .activate "gone", .activate "dev"].foldl
        Environments.apply start
      live.active = some "live" ∧ (live.seeds? none).isSome ∧ dev.active = some "dev" ∧
        (∀ seeds, live.seeds? none = some seeds →
          ["server", "org", "id"].map seeds.get? = [some "1", some "7", some "5"]) ∧
        ∀ seeds, dev.seeds? none = some seeds →
          ["server", "org", "id"].map seeds.get? = [some "3", some "7", none] := by
  intro file fs
  let start : Environments :=
    ⟨Dict.ofList [("dev", ⟨"dev", Dict.ofList [("server", "3")]⟩),
        ("live", ⟨"live", Dict.ofList [("id", "4")]⟩)],
      Dict.ofList [("server", "1"), ("org", "7")], some "live"⟩
  have loaded : Environments.load fs "env.json" = .ok start :=
    toOption_eq_some_iff.1 (by decide +kernel)
  have obtained : Obtained start := .loaded loaded
  obtain ⟨-, -, -, -, -, there, -, live, -⟩ := seeds?_after_changes obtained
    [Change.add (.ofName "live"), .share "id" "5"]
  obtain ⟨-, -, -, -, -, -, -, dev, -⟩ := seeds?_after_changes obtained
    [Change.add (.ofName "live"), .activate "gone", .activate "dev"]
  refine ⟨start, loaded, obtained, by decide +kernel, there, by decide +kernel,
    fun seeds h => ?_, fun seeds h => ?_⟩
  · simp only [List.map_cons, List.map_nil, live none seeds h]
    decide +kernel
  · simp only [List.map_cons, List.map_nil, dev none seeds h]
    decide +kernel

end CommandLine

end ScenarioSuite
