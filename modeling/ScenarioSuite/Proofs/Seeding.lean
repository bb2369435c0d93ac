import Mathlib.Data.List.Nodup
import ScenarioSuite.Proofs.Loading

/-!
# The variables at the beginning of a run

The store that the first scenario finds is filled in layers. The shared variables lie lowest, those
of the selected environment above them, then the base variable with the server of the command line,
and the assignments of the command line on top. In each layer but the last a name stands once, so
the order in which the layer is gone through does not matter.

## Main definitions

* `lastValue?`: the value that the last pair of a name has.
* `selected?`: the environment that a run takes its variables from.

## Main statements

* `Store.get?_seed`: pairs are looked up before the store that they are put into.
* `Dict.insertAll_perm`: the order of pairs with different names does not matter.
* `seed_precedence`: the store that the first scenario finds.
-/

namespace ScenarioSuite

/-- The value of the last pair with a name. -/
def lastValue? (x : String) (pairs : List (String × String)) : Option String :=
  ((pairs.filter fun pair => pair.1 = x).getLast?).map (·.2)

theorem lastValue?_append (x : String) (as bs : List (String × String)) :
    lastValue? x (as ++ bs) = (lastValue? x bs).or (lastValue? x as) := by
  unfold lastValue?
  rw [List.filter_append, List.getLast?_append]
  cases (bs.filter fun pair => pair.1 = x).getLast? <;> simp

theorem lastValue?_singleton (x key value : String) :
    lastValue? x [(key, value)] = if x = key then some value else none := by
  by_cases h : x = key
  · simp [lastValue?, h]
  · simp [lastValue?, h, Ne.symm h]

theorem lastValue?_eq_none {x : String} {pairs : List (String × String)}
    (h : x ∉ pairs.map (·.1)) : lastValue? x pairs = none := by
  have none : pairs.filter (fun pair => pair.1 = x) = [] := by
    rw [List.filter_eq_nil_iff]
    intro pair hpair same
    exact h (List.mem_map.2 ⟨pair, hpair, of_decide_eq_true same⟩)
  rw [lastValue?, none]
  rfl

theorem mem_of_lastValue? {x value : String} {pairs : List (String × String)}
    (h : lastValue? x pairs = some value) : (x, value) ∈ pairs := by
  obtain ⟨pair, hlast, rfl⟩ := Option.map_eq_some_iff.1 h
  obtain ⟨hmem, hname⟩ := List.mem_filter.1 (List.mem_of_getLast? hlast)
  obtain rfl : pair.1 = x := by simpa using hname
  exact hmem

theorem exists_lastValue? {pair : String × String} {pairs : List (String × String)}
    (h : pair ∈ pairs) : ∃ value, lastValue? pair.1 pairs = some value := by
  have listed : pair ∈ pairs.filter fun p => p.1 = pair.1 := List.mem_filter.2 ⟨h, by simp⟩
  obtain ⟨last, hlast⟩ := Option.isSome_iff_exists.1
    (List.getLast?_isSome.2 (List.ne_nil_of_mem listed))
  exact ⟨last.2, by rw [lastValue?, hlast]; rfl⟩

/-- Where each name stands once, the last pair of a name is the only one. -/
theorem lastValue?_eq_some_iff {x value : String} {pairs : List (String × String)}
    (nodup : (pairs.map (·.1)).Nodup) : lastValue? x pairs = some value ↔ (x, value) ∈ pairs := by
  refine ⟨mem_of_lastValue?, fun h => ?_⟩
  obtain ⟨last, hlast⟩ := exists_lastValue? h
  cases List.inj_on_of_nodup_map nodup (mem_of_lastValue? hlast) h rfl
  exact hlast

theorem lastValue?_perm {as bs : List (String × String)} (perm : as.Perm bs)
    (nodup : (as.map (·.1)).Nodup) (x : String) : lastValue? x as = lastValue? x bs := by
  have nodup' : (bs.map (·.1)).Nodup := (perm.map _).nodup_iff.1 nodup
  refine Option.ext fun value => ?_
  rw [lastValue?_eq_some_iff nodup, lastValue?_eq_some_iff nodup', perm.mem_iff]

namespace Dict

theorem lastValue?_entries (d : Dict String) (x : String) : lastValue? x d.entries = d.get? x := by
  refine Option.ext fun value => ?_
  rw [lastValue?_eq_some_iff d.ordered.nodup_keys, get?_eq_some_iff]

/-- Insertions in order leave the last value of each name. -/
theorem get?_insertAll_eq_lastValue? (d : Dict String) (pairs : List (String × String))
    (x : String) : (d.insertAll pairs).get? x = lastValue? x (d.entries ++ pairs) := by
  rw [lastValue?_append, lastValue?_entries]
  exact d.get?_insertAll pairs x

/-- The upper of two dictionaries is looked up first. -/
theorem get?_merge (base upper : Dict String) (x : String) :
    (base.merge upper).get? x = (upper.get? x).or (base.get? x) := by
  rw [← upper.lastValue?_entries]
  exact get?_insertAll ..

/-- The order in which pairs with different names are added does not matter. -/
theorem insertAll_perm (d : Dict String) {as bs : List (String × String)} (perm : as.Perm bs)
    (nodup : (as.map (·.1)).Nodup) : d.insertAll as = d.insertAll bs := by
  refine ext_get? fun x => ?_
  have same := lastValue?_perm perm nodup x
  unfold lastValue? at same
  rw [get?_insertAll, get?_insertAll, same]

end Dict

namespace Store

theorem seed_eq (s : Store) (pairs : List (String × String)) :
    s.seed pairs = ⟨s.values.insertAll pairs⟩ := by
  induction pairs generalizing s with
  | nil => rfl
  | cons pair pairs ih => rw [seed_cons, ih, Dict.insertAll_cons]; rfl

/-- A look-up finds the last of the pairs, and what was there before if there is none. -/
theorem get?_seed (s : Store) (pairs : List (String × String)) (x : String) :
    (s.seed pairs).get? x = (lastValue? x pairs).or (s.get? x) := by
  rw [seed_eq]
  exact Dict.get?_insertAll s.values pairs x

theorem seed_perm (s : Store) {as bs : List (String × String)} (perm : as.Perm bs)
    (nodup : (as.map (·.1)).Nodup) : s.seed as = s.seed bs := by
  rw [seed_eq, seed_eq, s.values.insertAll_perm perm nodup]

end Store

namespace CommandLine

/-- The environment that a run takes its variables from: the one of the command line, else that of
the settings, else the active one of the file. -/
def selected? (a : RunArguments) (config : Config) (es : Environments) : Option String :=
  a.environment.or (config.environment.or es.active)

variable {fs : FileSystem} {a : RunArguments} {config : Config} {es : Environments}
  {seeds : Dict String} {found : List Suite.Found} {scenarios : List Scenario}

/-- The variables of a run are those of the selected environment, above the shared ones. -/
theorem seeds_eq_merge (h : es.seeds? (a.environment.or config.environment) = some seeds) :
    ∃ upper : Dict String, seeds = es.shared.merge upper ∧
      match selected? a config es with
      | none => upper = Dict.empty
      | some name => ∃ e, es.get? name = some e ∧ upper = e.values := by
  unfold Environments.seeds? at h
  unfold selected?
  rw [Option.or_assoc] at h
  cases hname : a.environment.or (config.environment.or es.active) with
  | none =>
    rw [hname] at h
    cases h
    exact ⟨Dict.empty, rfl, rfl⟩
  | some name =>
    rw [hname] at h
    obtain ⟨e, he, rfl⟩ := Option.map_eq_some_iff.1 h
    exact ⟨e.values, rfl, e, he, rfl⟩

/-- The store that the first scenario finds. An assignment of the command line comes before the
server, which comes before the selected environment, which comes before the shared variables; and
the variables of the environment may be gone through in any order. -/
theorem seed_precedence (loads : Loads fs a config es seeds found scenarios) :
    ∃ (upper : Dict String) (store : Store),
      (match selected? a config es with
        | none => upper = Dict.empty
        | some name => ∃ e, es.get? name = some e ∧ upper = e.values) ∧
      (∀ x, store.get? x =
        (lastValue? x a.assignments).or
          ((if x = config.baseUrlVariable then a.server else none).or
            ((upper.get? x).or (es.shared.get? x)))) ∧
      (∀ {σ : Type} (client : Http.Client σ) (state : σ) (s : Scenario) (rest : List Scenario),
        scenarios = s :: rest → ∃ reports state',
          (Invocation.run a).execute fs client state =
            (.finished ((s.run client config.baseUrlVariable store state).report :: reports)
              a.asJson, state')) ∧
      ∀ pairs merged : List (String × String), pairs.Perm upper.entries →
        merged.Perm (es.shared.insertAll pairs).entries →
          store = ((Store.empty.seed merged).seed
            (a.server.toList.map fun url => (config.baseUrlVariable, url))).seed a.assignments := by
  obtain ⟨upper, rfl, selection⟩ := seeds_eq_merge loads.seeds_eq
  refine ⟨upper, Store.empty.seed (seedPairs a config (es.shared.merge upper)), selection, ?_, ?_,
    ?_⟩
  · intro x
    have server : lastValue? x (a.server.toList.map fun url => (config.baseUrlVariable, url)) =
        if x = config.baseUrlVariable then a.server else none := by
      cases a.server with
      | none => simp [lastValue?]
      | some url => exact lastValue?_singleton x _ url
    have merged : (es.shared.merge upper).get? x = (upper.get? x).or (es.shared.get? x) := by
      rw [← upper.lastValue?_entries]
      exact Dict.get?_insertAll ..
    rw [Store.get?_seed, seedPairs, lastValue?_append, lastValue?_append, server,
      Dict.lastValue?_entries, merged, Store.get?_empty, Option.or_none]
  · intro σ client state s rest hscenarios
    subst hscenarios
    rw [execute_of_loads loads client state]
    exact ⟨_, _, rfl⟩
  · intro pairs merged hpairs hmerged
    have nodup : (pairs.map (·.1)).Nodup := (hpairs.map _).nodup_iff.2 upper.ordered.nodup_keys
    have same : es.shared.insertAll pairs = es.shared.merge upper :=
      es.shared.insertAll_perm hpairs nodup
    rw [same] at hmerged
    have nodup' := (hmerged.map (·.1)).nodup_iff.2 (es.shared.merge upper).ordered.nodup_keys
    rw [Store.empty.seed_perm hmerged nodup', seedPairs, Store.seed_append, Store.seed_append]

/-- All layers have a value for the base variable, and the active environment is not the one that
is selected. -/
theorem seed_precedence_collision :
    let file := Text.Utf8.encode ("\x7b\"$shared\":\x7b\"server\":\"1\",\"org\":2\x7d," ++
      "\"dev\":\x7b\"server\":\"3\",\"id\":\"4\"\x7d,\"live\":\x7b\x7d,\"active\":\"live\"\x7d")
    let scenario := Text.Utf8.encode "request: \x7bmethod: GET, url: /\x7d"
    let suite : FileTree := .directory [("01.yaml", .file scenario)]
    let fs : FileSystem := ⟨.directory [("env.json", .file file), ("suite", suite)], []⟩
    let a : RunArguments := ⟨"suite", none, some "env.json", some "dev", some "5",
      [("server", "6"), ("org", "7"), ("server", "8")], false⟩
    ∃ es seeds found scenarios store, Loads fs a .standard es seeds found scenarios ∧
      scenarios.length = 1 ∧
      ["server", "org", "id", "token"].map (Store.get? store) =
        [some "8", some "7", some "4", none] := by
  intro file scenario suite fs a
  let dev : Environment := ⟨"dev", Dict.ofList [("server", "3"), ("id", "4")]⟩
  let es : Environments :=
    ⟨Dict.ofList [("dev", dev), ("live", .ofName "live")],
      Dict.ofList [("server", "1"), ("org", "2")], some "live"⟩
  have loaded : Environments.load fs "env.json" = .ok es :=
    toOption_eq_some_iff.1 (by decide +kernel)
  have discovered : Suite.discover fs "suite" (ignoredNames .standard (some "env.json")) =
      .ok [⟨["01.yaml"]⟩] :=
    Suite.discover_of_pairwise rfl (List.pairwise_singleton _ _)
      (toOption_eq_some_iff.1 (by decide +kernel))
  obtain ⟨s, hs⟩ : ∃ s, Suite.loadFile fs (Suite.Found.path ⟨["01.yaml"]⟩ "suite") = .ok s :=
    isSome_toOption_iff.1 (by decide +kernel)
  have selection : es.seeds? (some "dev") = some (es.shared.merge dev.values) := by
    decide +kernel
  have loads : Loads fs a .standard es (es.shared.merge dev.values) [⟨["01.yaml"]⟩] [s] :=
    ⟨rfl, loadEnvironments_of_some rfl loaded, selection, discovered, .cons hs .nil⟩
  obtain ⟨upper, store, chosen, values, -, -⟩ := seed_precedence loads
  have known : es.get? "dev" = some dev := by decide +kernel
  obtain ⟨e, he, rfl⟩ := chosen
  obtain rfl : dev = e := Option.some.inj (known.symm.trans he)
  refine ⟨es, _, _, [s], store, loads, rfl, ?_⟩
  simp only [List.map_cons, List.map_nil, values]
  decide +kernel

end CommandLine

end ScenarioSuite
