import ScenarioSuite.CommandLine.Plan
import ScenarioSuite.Proofs.Discovery
import ScenarioSuite.Proofs.Utf8

/-!
# The environment file among the scenarios

The environment file may stand in the directory of the suite and have the extension of a scenario
file. Discovery passes over it by its name: that of the file which is named on the command line, and
the one of the settings. The latter is compared with the names of entries as it is. It names the
file that is looked for as long as it is a single name; with a slash in it the file may be found,
but it is not passed over.

## Main definitions

* `environmentPath?`: the environment file that a run reads.

## Main statements

* `environmentFile_not_discovered`: the environment file is none of the scenario files.
* `environmentFile_discovered`: a path in the settings makes it one.
-/

namespace ScenarioSuite

/-- A file that is found has the name that is looked for. -/
theorem Environments.findFile?_eq_some {fs : FileSystem} {name path : Path} {depth : Nat}
    {directory : Path} (h : findFile? fs name depth directory = some path) :
    fs.isFile path ∧ ∃ above, path = Path.join above name := by
  induction depth generalizing directory with
  | zero => cases h
  | succ depth ih =>
    rw [findFile?] at h
    split at h
    · next hfile =>
      cases h
      exact ⟨hfile, directory, rfl⟩
    · obtain ⟨parent, -, hparent⟩ := Option.bind_eq_some_iff.1 h
      exact ih hparent

namespace CommandLine

/-- The path of the environment file that a run reads: the one that is named, or the one that is
found from the directory of the suite. -/
def environmentPath? (fs : FileSystem) (config : Config) (directory : Path)
    (environmentFile : Option Path) : Option Path :=
  environmentFile.or
    (Environments.findFile? fs config.environmentFile Environments.searchDepth directory)

/-- The environments of a run are those of this file. -/
theorem loadEnvironments_eq (fs : FileSystem) (config : Config) (directory : Path)
    (environmentFile : Option Path) :
    loadEnvironments fs config directory environmentFile =
      match environmentPath? fs config directory environmentFile with
      | some path => (Environments.load fs path).mapError .environment
      | none => .ok .empty := by
  unfold loadEnvironments environmentPath?
  cases environmentFile with
  | some path =>
    simp only [Option.some_or]
    cases Environments.load fs path <;> rfl
  | none =>
    unfold Environments.discover
    rw [Option.none_or]
    cases Environments.findFile? fs config.environmentFile Environments.searchDepth directory with
    | none => rfl
    | some path =>
      dsimp only
      cases Environments.load fs path <;> rfl

variable {fs : FileSystem} {config : Config} {directory path : Path}
  {environmentFile : Option Path}

/-- A text without a slash is the path of a single name. -/
theorem slash_not_mem_encode {s : String} (single : '/' ∉ s.toList) :
    Path.slash ∉ Text.Utf8.encode s :=
  fun h => single (Text.Utf8.ofNat_mem_of_mem_encode h (by decide))

/-- The environment file stands under a name that is passed over. -/
theorem ignored_of_environmentPath?
    (single : environmentFile = none → '/' ∉ config.environmentFile.toList)
    (hpath : environmentPath? fs config directory environmentFile = some path)
    (hfile : fs.isFile path) :
    ∃ front name, fs.place? path = some (front ++ [name]) ∧
      Path.display name ∈ ignoredNames config environmentFile := by
  obtain ⟨front, pieces, name, hpieces, hname, hplace⟩ := FileSystem.fileName?_of_isFile hfile
  refine ⟨front, name, hplace, ?_⟩
  cases environmentFile with
  | some named =>
    cases hpath
    rw [ignoredNames, Option.bind_some, hname, Option.map_some]
    dsimp only
    split <;> simp_all
  | none =>
    obtain ⟨-, above, rfl⟩ := Environments.findFile?_eq_some hpath
    obtain ⟨-, front', hjoined, -⟩ :=
      Path.exists_front_join above (slash_not_mem_encode (single rfl))
    have same : [name] = [Text.Utf8.encode config.environmentFile] :=
      (List.append_inj' (hpieces.symm.trans hjoined) rfl).2
    rw [List.singleton_inj.1 same, Path.display, Text.Utf8.decodeLossy_encode]
    exact List.mem_singleton_self _

/-- The environment file that a run reads is none of the scenario files that are discovered, if it
is named on the command line or the settings have a single name for it. -/
theorem environmentFile_not_discovered (wf : fs.root.WellFormed)
    (single : environmentFile = none → '/' ∉ config.environmentFile.toList)
    (hpath : environmentPath? fs config directory environmentFile = some path)
    (hfile : fs.isFile path) {found : List Suite.Found}
    (hfound : Suite.discover fs directory (ignoredNames config environmentFile) = .ok found)
    {f : Suite.Found} (hf : f ∈ found) :
    ((f.path directory).length ≤ FileSystem.longestPath →
      ∃ content, fs.lookUp (f.path directory) = .ok (.file content)) ∧
    fs.place? (f.path directory) ≠ fs.place? path := by
  obtain ⟨tree, htree, hfiles⟩ := Suite.discover_eq_ok_iff.1 hfound
  have reached := FileSystem.lookUp_of_directory? htree
  have scenario := (Suite.mem_scenarioFiles_iff (FileSystem.wellFormed_of_lookUp wf reached)
    (FileSystem.length_of_lookUp reached) hfiles).1 hf
  have leads := Suite.leads_of_mem_scenarioFiles wf reached hfiles hf
  refine ⟨fun short => (leads short).1, fun heq => ?_⟩
  obtain ⟨front, name, hpathPlace, hignored⟩ := ignored_of_environmentPath? single hpath hfile
  have hplaced := heq.trans hpathPlace
  have hplace := (leads (FileSystem.length_of_place? hplaced)).2
  -- The last name on the way to the file would have to be one that is passed over.
  obtain ⟨last, hlast, -⟩ := scenario.extension
  obtain ⟨init, hinit⟩ := List.getLast?_eq_some_iff.1 hlast
  obtain ⟨above, -, happend⟩ := Option.map_eq_some_iff.1 (hplace.symm.trans hplaced)
  rw [hinit, ← List.append_assoc] at happend
  have same : [last] = [name] := (List.append_inj' happend rfl).2
  cases same
  exact (scenario.visible name (hinit ▸ List.mem_append_right _ (List.mem_singleton_self _))).2
    hignored

/-- An environment file in a directory of the suite is passed over if it is named by its path. -/
theorem environmentFile_not_discovered_named :
    let suite : FileTree := .directory
      [("a.yaml", .file []), ("sub", .directory [("env.json", .file [])])]
    let fs : FileSystem := ⟨.directory [("suite", suite)], []⟩
    let named : Path := "suite/./sub/env.json"
    fs.root.WellFormed ∧ environmentPath? fs .standard "suite" (some named) = some named ∧
      fs.isFile named ∧
      ∃ found, Suite.discover fs "suite" (ignoredNames .standard (some named)) = .ok found ∧
        ∃ f ∈ found, ((f.path "suite").length ≤ FileSystem.longestPath →
            ∃ content, fs.lookUp (f.path "suite") = .ok (.file content)) ∧
          fs.place? (f.path "suite") ≠ fs.place? named := by
  intro suite fs named
  have wf : fs.root.WellFormed := by decide +kernel
  have hfile : fs.isFile named := by decide +kernel
  let ignored := ignoredNames .standard (some named)
  have scenario : Suite.entryFiles ignored "suite" ("a.yaml", .file []) = .ok [⟨["a.yaml"]⟩] :=
    toOption_eq_some_iff.1 (by decide +kernel)
  have passed (root : Path) : Suite.entryFiles ignored root ("env.json", .file []) = .ok [] := by
    rw [Suite.entryFiles, if_pos (by decide +kernel)]
  have below : Suite.entryFiles ignored "suite" ("sub", .directory [("env.json", .file [])]) =
      .ok [] := by
    rw [Suite.entryFiles_of_isDirectoryAt (by decide +kernel) (by decide +kernel),
      Suite.scenarioFiles_of_pairwise (List.pairwise_singleton _ _)]
    simp [passed, Except.map]
  have hfound : Suite.discover fs "suite" ignored = .ok [⟨["a.yaml"]⟩] := by
    refine Suite.discover_of_pairwise rfl (by decide +kernel) ?_
    simp only [List.mapM_cons, List.mapM_nil, scenario, below, ok_bind]
    rfl
  refine ⟨wf, rfl, hfile, _, hfound, _, List.mem_singleton_self _, ?_⟩
  exact environmentFile_not_discovered wf (fun h => by cases h) rfl hfile hfound
    (List.mem_singleton_self _)

/-- With a path in the settings the environment file that is found is discovered as well:
`./env.json` leads to the entry `env.json` of the suite's directory, but is not its name. -/
theorem environmentFile_discovered :
    let suite : FileTree := .directory [("env.json", .file [123, 125])]
    let fs : FileSystem := ⟨.directory [("suite", suite)], []⟩
    let config := { Config.standard with environmentFile := "./env.json" }
    config.fault? = none ∧ fs.root.WellFormed ∧
      ∃ path found, environmentPath? fs config "suite" none = some path ∧ fs.isFile path ∧
        Suite.discover fs "suite" (ignoredNames config none) = .ok found ∧
        ∃ f ∈ found, fs.place? (f.path "suite") = fs.place? path := by
  intro suite fs config
  have hfound : Suite.discover fs "suite" (ignoredNames config none) = .ok [⟨["env.json"]⟩] :=
    Suite.discover_of_pairwise rfl (List.pairwise_singleton _ _)
      (toOption_eq_some_iff.1 (by decide +kernel))
  exact ⟨by decide +kernel, by decide +kernel, "suite/./env.json", _, by decide +kernel,
    by decide +kernel, hfound, _, List.mem_singleton_self _, by decide +kernel⟩

end CommandLine

end ScenarioSuite
