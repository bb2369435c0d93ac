import ScenarioSuite.Environment.File
import ScenarioSuite.Proofs.Parents

/-!
# The search for an environment file

The environment file is looked for in a directory and in three more, which are found by taking parts
off the end of the path. If the path is absolute and has no steps up in it, these are the
directories above. Those above the working directory are not reached by a relative path, and behind
a step up the path without its last part leads to a directory that need not be above.

## Main definitions

* `FileTree.firstFile?`: the first file of a name in several directories.
* `Environments.nearest`: a directory and the three nearest ones above it.
* `Environments.searched`: the places in which a file can be seen from a path.

## Main statements

* `Environments.discover_nearest`: the directories in which the file is looked for.
* `Environments.discover_otherSpellings`: paths of a directory for which these are others than the
  directory and those above it.
-/

namespace ScenarioSuite

/-! ## Files in directories -/

namespace FileTree

variable {root : FileTree} {name : Path}

/-- The content of the file of a name in the directory at a place. -/
def fileIn? (root : FileTree) (name : Path) (place : List Path) : Option (List UInt8) :=
  match root.at? (place ++ [name]) with
  | some (.file content) => some content
  | _ => none

/-- The content of the first file of a name in the directories at some places. -/
def firstFile? (root : FileTree) (name : Path) (places : List (List Path)) :
    Option (List UInt8) :=
  places.findSome? (root.fileIn? name)

theorem fileIn?_eq_some_iff {place : List Path} {content : List UInt8} :
    root.fileIn? name place = some content ↔
      root.at? (place ++ [name]) = some (.file content) := by
  unfold fileIn?
  split
  · next other h => simp [h]
  · next h =>
    constructor
    · rintro ⟨⟩
    · exact fun hfile => absurd hfile (h content)

end FileTree

namespace FileSystem

/-- A name below a directory leads to a file exactly if the file is in the directory. -/
theorem Leads.lookUp_join_iff_fileIn? {fs : FileSystem} {path name : Path} {trail : Trail}
    (h : fs.Leads path trail) (wf : fs.root.WellFormed) (single : Path.slash ∉ name)
    (short : (Path.join path name).length ≤ longestPath) (content : List UInt8) :
    fs.lookUp (Path.join path name) = .ok (.file content) ↔
      fs.root.fileIn? name trail.names = some content := by
  rw [h.lookUp_join_iff wf single short, FileTree.fileIn?_eq_some_iff, FileTree.at?_append,
    Trail.Linked.at?_names fs.root h.linked]
  simp

end FileSystem

namespace Environments

variable {fs : FileSystem} {path name : Path} {trail : Trail}

/-! ## Directories above -/

/-- The places of a directory and of the three nearest ones above it. -/
def nearest (place : List Path) : List (List Path) :=
  place.inits.reverse.take 4

/-- The fronts of a list are those that reach into its end, and shorter ones. -/
theorem exists_inits_append {α : Type} (front behind : List α) :
    ∃ shorter, (front ++ behind).inits.reverse = behind.inits.reverse.map (front ++ ·) ++ shorter ∧
      ∀ as ∈ shorter, ¬ front <+: as := by
  induction front with
  | nil => exact ⟨[], by simp, by simp⟩
  | cons a front ih =>
    obtain ⟨shorter, heq, hshorter⟩ := ih
    refine ⟨shorter.map (a :: ·) ++ [[]], ?_, ?_⟩
    · rw [List.cons_append, List.inits_cons, List.reverse_cons, ← List.map_reverse, heq]
      simp [Function.comp_def]
    · intro as has
      simp only [List.mem_append, List.mem_map, List.mem_singleton] at has
      rcases has with ⟨as, has, rfl⟩ | rfl
      · rw [List.prefix_cons_inj]
        exact hshorter as has
      · simp

/-- The nearest directories that are not above a given one. -/
theorem filter_nearest_append (current names : List Path) :
    (nearest (current ++ names)).filter (current.isPrefixOf ·) =
      (names.inits.reverse.map (current ++ ·)).take 4 := by
  obtain ⟨higher, heq, hhigher⟩ := exists_inits_append current names
  have kept : ∀ place ∈ (names.inits.reverse.map (current ++ ·)).take 4,
      current.isPrefixOf place := by
    intro place hplace
    obtain ⟨below, -, rfl⟩ := List.mem_map.1 (List.mem_of_mem_take hplace)
    exact List.isPrefixOf_iff_prefix.2 (List.prefix_append current below)
  have dropped : ∀ n, ∀ place ∈ higher.take n, ¬ current.isPrefixOf place := fun n place hplace h =>
    hhigher place (List.mem_of_mem_take hplace) (List.isPrefixOf_iff_prefix.1 h)
  rw [nearest, heq, List.take_append, List.filter_append, List.filter_eq_self.2 kept,
    List.filter_eq_nil_iff.2 (dropped _), List.append_nil]

/-! ## The search -/

/-- The environments in the content of a file. -/
def ofContent (content : List UInt8) : Except EnvironmentError Environments :=
  match FileSystem.textOf content with
  | .error e => .error (.unreadable e)
  | .ok text => ofFileText text

/-- The environments in the content of the file that was found; without one there are none. -/
def ofFound : Option (List UInt8) → Except EnvironmentError Environments
  | some content => ofContent content
  | none => .ok empty

theorem load_of_file {content : List UInt8} (h : fs.lookUp path = .ok (.file content)) :
    load fs path = ofContent content := by
  have hfile : fs.isFile path := FileSystem.isFile_iff.2 ⟨content, h⟩
  have read : fs.readText path = FileSystem.textOf content := by
    rw [FileSystem.readText, h]
    rfl
  rw [load, hfile, read]
  rfl

/-- The path and its parents, so many in all. -/
def ancestors : Nat → Path → List Path
  | 0, _ => []
  | depth + 1, path => path :: ((Path.parent? path).map (ancestors depth)).getD []

/-- The place that the names in a path lead to. -/
def placeOfNames? (fs : FileSystem) (path : Path) : Option (List Path) :=
  (fs.walk (Path.isAbsolute path) (Path.names path)).toOption.map Trail.names

/-- The places in which a file can be seen from a path: those of the path and its parents, without
those from which the path of the file is too long to be looked up. -/
def searched (fs : FileSystem) (name : Path) (depth : Nat) (path : Path) : List (List Path) :=
  ((ancestors depth path).filter fun above =>
    (Path.join above name).length ≤ FileSystem.longestPath).filterMap (placeOfNames? fs)

theorem placeOfNames?_of_leads (h : fs.Leads path trail) :
    placeOfNames? fs path = some trail.names := by
  rw [placeOfNames?, h.followed]
  rfl

theorem searched_succ (depth : Nat) (path : Path) :
    searched fs name (depth + 1) path =
      (if (Path.join path name).length ≤ FileSystem.longestPath then
        (placeOfNames? fs path).toList else []) ++
        ((Path.parent? path).map (searched fs name depth)).getD [] := by
  have higher : ((Path.parent? path).map (searched fs name depth)).getD [] =
      ((((Path.parent? path).map (ancestors depth)).getD []).filter fun above =>
        (Path.join above name).length ≤ FileSystem.longestPath).filterMap (placeOfNames? fs) := by
    cases Path.parent? path <;> rfl
  rw [higher, searched, ancestors]
  by_cases short : (Path.join path name).length ≤ FileSystem.longestPath
  · cases hplace : placeOfNames? fs path <;> simp [short, hplace]
  · simp [short]

/-- The file is looked for in those places. -/
theorem findFile?_elim (wf : fs.root.WellFormed) (single : Path.slash ∉ name)
    (h : fs.Leads path trail) (depth : Nat) :
    (findFile? fs name depth path).elim (.ok empty) (load fs) =
      ofFound (fs.root.firstFile? name (searched fs name depth path)) := by
  induction depth generalizing path trail with
  | zero => rfl
  | succ depth ih =>
    have above : ((Path.parent? path).bind (findFile? fs name depth)).elim (.ok empty) (load fs) =
        ofFound (fs.root.firstFile? name
          (((Path.parent? path).map (searched fs name depth)).getD [])) := by
      cases habove : Path.parent? path with
      | none => rfl
      | some above =>
        obtain ⟨trail', leads⟩ := h.parent habove
        exact ih leads
    rw [findFile?, searched_succ, placeOfNames?_of_leads h]
    by_cases short : (Path.join path name).length ≤ FileSystem.longestPath
    · have candidate := h.lookUp_join_iff_fileIn? wf single short
      rw [if_pos short, Option.toList_some, List.singleton_append, FileTree.firstFile?,
        List.findSome?_cons]
      by_cases hfile : fs.isFile (Path.join path name)
      · obtain ⟨content, hcontent⟩ := FileSystem.isFile_iff.1 hfile
        rw [if_pos hfile, (candidate content).1 hcontent]
        exact load_of_file hcontent
      · have missing : fs.root.fileIn? name trail.names = none :=
          Option.eq_none_iff_forall_ne_some.2 fun content hcontent =>
            hfile (FileSystem.isFile_iff.2 ⟨content, (candidate content).2 hcontent⟩)
        rw [if_neg hfile, missing]
        exact above
    · have hfile : ¬ fs.isFile (Path.join path name) := fun hfile => by
        obtain ⟨trail', htrace, -⟩ := FileSystem.exists_trace_of_isFile hfile
        exact short (FileSystem.trace_eq_ok_iff.1 htrace).2.2.1
      rw [if_neg hfile, if_neg short, List.nil_append]
      exact above

/-- If the path of the file is not too long in the directory, it is not in those that follow. -/
theorem searched_of_short (single : Path.slash ∉ name)
    (short : (Path.join path name).length ≤ FileSystem.longestPath) (depth : Nat) :
    searched fs name depth path = (ancestors depth path).filterMap (placeOfNames? fs) := by
  have all_short : ∀ above ∈ ancestors depth path,
      (Path.join above name).length ≤ FileSystem.longestPath := by
    induction depth generalizing path with
    | zero => exact fun _ h => absurd h List.not_mem_nil
    | succ depth ih =>
      intro above hmem
      rcases List.mem_cons.1 hmem with rfl | hmem
      · exact short
      · cases habove : Path.parent? path with
        | none =>
          rw [habove] at hmem
          cases hmem
        | some parent =>
          rw [habove] at hmem
          exact ih (Nat.le_trans (Path.length_join_parent_le habove single) short) above hmem
  rw [searched, List.filter_eq_self.2 fun above h => decide_eq_true (all_short above h)]

/-- The first file is the one upwards from where the path leads. -/
theorem firstFile?_ancestors (h : fs.Leads path trail) (depth : Nat) :
    fs.root.firstFile? name ((ancestors depth path).filterMap (placeOfNames? fs)) =
      fs.root.firstFile? name ((fs.upwards path).take depth) := by
  induction depth generalizing path trail with
  | zero => rfl
  | succ depth ih =>
    obtain ⟨higher, hupwards, top, parent⟩ := h.exists_upwards
    rw [ancestors, List.filterMap_cons_some (placeOfNames?_of_leads h), hupwards,
      List.take_succ_cons, FileTree.firstFile?, FileTree.firstFile?, List.findSome?_cons,
      List.findSome?_cons]
    cases hfile : fs.root.fileIn? name trail.names with
    | some content => rfl
    | none =>
      dsimp only
      cases habove : Path.parent? path with
      | none =>
        rw [top habove, List.take_nil]
        rfl
      | some above =>
        obtain ⟨trail', leads⟩ := h.parent habove
        refine (ih leads).trans ?_
        rcases parent above habove with heq | ⟨rfl, heq⟩
        · rw [heq]
          rfl
        · -- The path is a dot, and its parent leads to the same directory once more.
          have again : fs.root.firstFile? name ((fs.upwards above).take depth) = none := by
            refine List.findSome?_eq_none_iff.2 fun place hplace => ?_
            have mem := List.mem_of_mem_take hplace
            rw [heq, hupwards, List.mem_singleton] at mem
            rw [mem, hfile]
          rw [again, List.take_nil]
          rfl

theorem discover_eq (wf : fs.root.WellFormed) (single : Path.slash ∉ name)
    (h : fs.Leads path trail) :
    discover fs path name = ofFound (fs.root.firstFile? name (searched fs name 4 path)) := by
  refine Eq.trans ?_ (findFile?_elim wf single h searchDepth)
  delta discover
  cases findFile? fs name searchDepth path <;> rfl

/-- The environments are those of the first file of the name where the path or one of its next
three parents leads; only where the path of the file would be too long, it is not looked for. If it
is not too long in the directory itself, the file is looked for there and where the path leads
without up to three of its last names. If the path has no steps up and is absolute, these are the
directory and the three nearest ones above it; if it is relative, only those of them that are not
above the working directory. Without such a file there are no environments. -/
theorem discover_nearest (wf : fs.root.WellFormed) (single : Path.slash ∉ name) {tree : FileTree}
    (hdirectory : fs.directory? path = some tree) :
    ∃ place, fs.place? path = some place ∧ fs.root.at? place = some tree ∧
      discover fs path name = ofFound (fs.root.firstFile? name (searched fs name 4 path)) ∧
      ((Path.join path name).length ≤ FileSystem.longestPath →
        discover fs path name = ofFound (fs.root.firstFile? name ((fs.upwards path).take 4)) ∧
        (Path.up ∉ Path.names path → Path.isAbsolute path →
          discover fs path name = ofFound (fs.root.firstFile? name (nearest place))) ∧
        (Path.up ∉ Path.names path → ¬ Path.isAbsolute path →
          ∃ current, fs.place? Path.here = some current ∧ current <+: place ∧
            discover fs path name = ofFound (fs.root.firstFile? name
              ((nearest place).filter (current.isPrefixOf ·))))) := by
  obtain ⟨trail, htrace, rfl, leads⟩ := FileSystem.leads_of_directory? hdirectory
  have found := discover_eq wf single leads
  refine ⟨trail.names, ?_, Trail.Linked.at?_names fs.root leads.linked, found, fun short => ?_⟩
  · simp [FileSystem.place?, htrace, Except.toOption]
  rw [searched_of_short single short, firstFile?_ancestors leads] at found
  refine ⟨found, ?_, ?_⟩
  · intro noUp absolute
    obtain ⟨origin, horigin, -, hplace, hupwards⟩ := leads.exists_origin noUp
    rw [absolute] at horigin
    cases horigin
    rw [found, hupwards, hplace]
    simp [nearest, Trail.names]
  · intro noUp relative
    obtain ⟨origin, horigin, directory, hplace, hupwards⟩ := leads.exists_origin noUp
    have dot : [Path.here].filter Path.isName = [] := by decide
    have begins : Path.isAbsolute Path.here = Path.isAbsolute path := by
      rw [Bool.eq_false_iff.2 relative]
      decide
    have walked : fs.walk (Path.isAbsolute Path.here) [Path.here] = .ok origin := by
      rw [← FileSystem.walk_filter_isName_iff directory, dot, begins]
      exact horigin
    have current : fs.trace Path.here = .ok origin :=
      FileSystem.trace_eq_ok_iff.2 ⟨by decide, by decide, by decide, walked⟩
    refine ⟨origin.names, ?_, hplace ▸ List.prefix_append .., ?_⟩
    · simp [FileSystem.place?, current, Except.toOption]
    · rw [found, hupwards, hplace, filter_nearest_append]

/-- A relative path with a dot in it: the file in the working directory is nearer than the one above
it, which would not be reached. -/
theorem discover_nearest_workingDirectory :
    let near := Text.Utf8.encode "\x7b\"near\":\x7b\x7d\x7d"
    let far := Text.Utf8.encode "\x7b\"far\":\x7b\x7d\x7d"
    let fs : FileSystem :=
      ⟨.directory [("a", .directory [("b", .directory [("c", .directory [])]),
        ("env.json", .file near)]), ("env.json", .file far)], ["a"]⟩
    let path : Path := "b/./c"
    let name : Path := "env.json"
    let place : List Path := ["a", "b", "c"]
    fs.root.WellFormed ∧ Path.slash ∉ name ∧ fs.directory? path = some (.directory []) ∧
      fs.place? path = some place ∧ Path.up ∉ Path.names path ∧ ¬ Path.isAbsolute path ∧
      discover fs path name = ofContent near := by
  intro near far fs path name place
  have wf : fs.root.WellFormed := by decide +kernel
  have single : Path.slash ∉ name := by decide +kernel
  have hdirectory : fs.directory? path = some (.directory []) := rfl
  have hplace : fs.place? path = some place := by decide +kernel
  have noUp : Path.up ∉ Path.names path := by decide +kernel
  have relative : ¬ Path.isAbsolute path := by decide +kernel
  refine ⟨wf, single, hdirectory, hplace, noUp, relative, ?_⟩
  obtain ⟨place', hplace', -, -, short⟩ := discover_nearest wf single hdirectory
  obtain ⟨-, -, below⟩ := short (by decide +kernel)
  obtain ⟨current, hcurrent, -, found⟩ := below noUp relative
  cases hplace'.symm.trans hplace
  have here : fs.place? Path.here = some ([("a" : Path)]) := by decide +kernel
  cases hcurrent.symm.trans here
  have first : fs.root.firstFile? name ((nearest place).filter ([("a" : Path)].isPrefixOf ·)) =
      some near := by decide +kernel
  exact found.trans (congrArg ofFound first)

/-- Two paths from which other directories are searched than the one they lead to and those above
it. The first ends with a step up: without that part it leads further down, where a file is found
although there is none in the directory or above. The second is a dot: no name can be taken off its
end, so that the file in the directory above is not found. -/
theorem discover_otherSpellings :
    let content := Text.Utf8.encode "\x7b\"local\":\x7b\x7d\x7d"
    let root : FileTree :=
      .directory [("a", .directory [("b", .directory []), ("env.json", .file content)])]
    let current : List Path := ["a", "b"]
    let fs : FileSystem := ⟨root, current⟩
    root.WellFormed ∧
      (fs.place? "/a/.." = some [] ∧ (fs.directory? "/a/..").isSome ∧
        root.firstFile? "env.json" (nearest []) = none ∧
        discover fs "/a/.." "env.json" = .ok (empty.add ⟨"local", Dict.empty⟩)) ∧
      (fs.place? "." = some current ∧ (fs.directory? ".").isSome ∧
        root.firstFile? "env.json" (nearest current) = some content ∧
        discover fs "." "env.json" = .ok empty) := by
  intro content root current fs
  have below : discover fs "/a/.." "env.json" = .ok (empty.add ⟨"local", Dict.empty⟩) :=
    toOption_eq_some_iff.1 (by decide +kernel)
  exact ⟨by decide +kernel, ⟨by decide +kernel, rfl, rfl, below⟩,
    ⟨by decide +kernel, rfl, rfl, rfl⟩⟩

end Environments

end ScenarioSuite
