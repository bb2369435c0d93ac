import Mathlib.Data.List.TakeWhile
import ScenarioSuite.Proofs.Outcome
import ScenarioSuite.Proofs.Places
import ScenarioSuite.Suite.Load

/-!
# Which files are discovered, and in which order

Discovery sorts the entries of one directory at a time. The files come out in the order of the lists
of names that lead to them, which differs from the order of their paths: all that is in a directory
`a` comes before a file `a.yaml` beside it. Passing over a directory passes over all below it, so a
file is found if no name on the way to it is passed over. Directories are come to in the same order,
and the first that cannot be listed ends it.

## Main definitions

* `HasScenarioExtension`: a name ends in one of the extensions.
* `IsVisible`: a name is neither hidden nor ignored.
* `IsScenarioFile`: what is to be found.
* `Visits`: the directories that discovery comes to.

## Main statements

* `mem_scenarioFiles_iff`: which files are found.
* `pairwise_scenarioFiles`: in which order.
* `exists_unlisted_of_scenarioFiles`: which directory ends it.
* `discover_exact`: all of these, and that each path leads to its file.
-/

namespace ScenarioSuite

/-! ## Extensions -/

namespace Path

variable {name : Path}

theorem cutExtension_eq {front behind : Path} (h : name = front ++ dot :: behind)
    (hbehind : dot ∉ behind) :
    cutExtension name = if front.isEmpty then (name, none) else (front, some behind) := by
  have reversed : name.reverse = behind.reverse ++ dot :: front.reverse := by simp [h]
  have run : name.reverse.takeWhile (· != dot) = behind.reverse := by
    rw [reversed, List.takeWhile_append_of_pos]
    · simp
    · intro b hb
      have : b ≠ dot := fun heq => hbehind (heq ▸ List.mem_reverse.1 hb)
      simpa using this
  have rest : name.reverse.drop (behind.reverse.length + 1) = front.reverse := by
    rw [reversed, ← List.drop_drop, List.drop_left]
    rfl
  unfold cutExtension
  simp only [run, rest, List.reverse_reverse]

theorem cutExtension_of_not_mem (h : dot ∉ name) : cutExtension name = (name, none) := by
  have run : name.reverse.takeWhile (· != dot) = name.reverse := by
    refine List.takeWhile_eq_self_iff.2 fun b hb => ?_
    have : b ≠ dot := fun heq => h (heq ▸ List.mem_reverse.1 hb)
    simpa using this
  simp [cutExtension, run]

theorem exists_last_dot (h : dot ∈ name) :
    ∃ front behind, name = front ++ dot :: behind ∧ dot ∉ behind := by
  obtain ⟨behind, front, hsplit, hbehind⟩ := List.eq_append_cons_of_mem (List.mem_reverse.2 h)
  refine ⟨front.reverse, behind.reverse, ?_, fun hdot => hbehind (List.mem_reverse.1 hdot)⟩
  rw [← List.reverse_reverse name, hsplit]
  simp

/-- The extension is what stands behind the last dot, if something stands in front of the dot. -/
theorem extension?_eq_some_iff {extension : Path} :
    extension? name = some extension ↔
      ∃ stem, stem ≠ [] ∧ name = stem ++ dot :: extension ∧ dot ∉ extension := by
  constructor
  · intro h
    by_cases dotted : dot ∈ name
    · obtain ⟨front, behind, hname, hbehind⟩ := exists_last_dot dotted
      rw [extension?, cutExtension_eq hname hbehind] at h
      split at h
      · cases h
      · next hfront =>
        cases h
        exact ⟨front, by simpa using hfront, hname, hbehind⟩
    · rw [extension?, cutExtension_of_not_mem dotted] at h
      cases h
  · rintro ⟨stem, hstem, hname, hdot⟩
    rw [extension?, cutExtension_eq hname hdot]
    simp [hstem]

end Path

theorem Text.sameFold_iff {s t : String} : sameFold s t ↔ fold s = fold t := by
  simp [sameFold, fold, ← String.toList_inj]

namespace Suite

open FileSystem (longestPath)

/-- The name ends in a dot and one of the extensions, whose letters may be capitals, and has
something in front of the dot. -/
def HasScenarioExtension (name : Path) : Prop :=
  ∃ stem extension text, stem ≠ [] ∧ name = stem ++ Path.dot :: extension ∧
    Path.dot ∉ extension ∧ Text.Utf8.decode extension = .ok text ∧ Text.fold text ∈ extensions

theorem any_sameFold_iff {extension : String} :
    extensions.any (Text.sameFold extension) ↔ Text.fold extension ∈ extensions := by
  have folded : ∀ e ∈ extensions, Text.fold e = e := by decide +kernel
  simp only [List.any_eq_true, Text.sameFold_iff]
  constructor
  · rintro ⟨e, he, h⟩
    rw [h, folded e he]
    exact he
  · intro h
    exact ⟨_, h, (folded _ h).symm⟩

theorem isScenarioName_iff {name : Path} : isScenarioName name ↔ HasScenarioExtension name := by
  unfold isScenarioName
  constructor
  · intro h
    split at h
    · next extension hextension =>
      obtain ⟨stem, hstem, hname, hdot⟩ := Path.extension?_eq_some_iff.1 hextension
      split at h
      · next text htext =>
        exact ⟨stem, extension, text, hstem, hname, hdot, htext, any_sameFold_iff.1 h⟩
      · cases h
    · cases h
  · rintro ⟨stem, extension, text, hstem, hname, hdot, htext, h⟩
    rw [Path.extension?_eq_some_iff.2 ⟨stem, hstem, hname, hdot⟩]
    dsimp only
    rw [htext]
    exact any_sameFold_iff.2 h

/-- The name, as it is shown, is neither hidden nor on the list. -/
def IsVisible (ignored : List String) (name : Path) : Prop :=
  (Path.display name).toList.head? ≠ some '.' ∧ Path.display name ∉ ignored

theorem isIgnored_eq_false_iff {ignored : List String} {name : Path} :
    isIgnored ignored name = false ↔ IsVisible ignored name := by
  simp [isIgnored, IsVisible]

/-! ## The order of entries -/

section Order

variable {α : Type} {entries : List (Path × α)}

theorem mem_inOrder {entry : Path × α} : entry ∈ inOrder entries ↔ entry ∈ entries :=
  (List.mergeSort_perm _ _).mem_iff

end Order

/-! ## Entries -/

variable {ignored : List String} {root name : Path}

/-- The scenario files that an entry gives. -/
def entryFiles (ignored : List String) (directory : Path) :
    Path × FileTree → Except Path (List Found)
  | (name, node) =>
    let path := Path.join directory name
    if isIgnored ignored name then .ok []
    else if isDirectoryAt path node then
      (scenarioFiles ignored path node).map fun found => found.map (·.below name)
    else .ok (if isScenarioName name then [⟨[name]⟩] else [])

theorem scenarioEntries_eq (ignored : List String) (root : Path)
    (entries : List (Path × FileTree)) :
    scenarioEntries ignored root entries =
      entries.map fun entry => (entry.1, entryFiles ignored root entry) := by
  induction entries with
  | nil => rw [scenarioEntries, List.map_nil]
  | cons entry rest ih => rw [List.map_cons, ← ih, scenarioEntries, entryFiles]

theorem isDirectoryAt_iff {path : Path} {node : FileTree} :
    isDirectoryAt path node ↔ path.length ≤ longestPath ∧ node.isDirectory := by
  simp [isDirectoryAt]

/-- A node is not seen as a directory if it is none, or if its path is too long. -/
theorem isDirectoryAt_eq_false_iff {path : Path} {node : FileTree} :
    isDirectoryAt path node = false ↔ (node.isDirectory → longestPath < path.length) := by
  cases h : node.isDirectory <;> simp [isDirectoryAt, h]

theorem entryFiles_of_isDirectoryAt {node : FileTree} (visible : isIgnored ignored name = false)
    (directory : isDirectoryAt (Path.join root name) node) :
    entryFiles ignored root (name, node) =
      (scenarioFiles ignored (Path.join root name) node).map fun found =>
        found.map (·.below name) := by
  rw [entryFiles, visible, directory]
  rfl

/-- What an entry gives, if it is not a directory that cannot be gone through. -/
theorem mem_of_entryFiles {node : FileTree} {part : List Found}
    (h : entryFiles ignored root (name, node) = .ok part) {f : Found} :
    f ∈ part ↔ IsVisible ignored name ∧
      ((isDirectoryAt (Path.join root name) node ∧ ∃ found,
          scenarioFiles ignored (Path.join root name) node = .ok found ∧
            ∃ g ∈ found, g.below name = f) ∨
        isDirectoryAt (Path.join root name) node = false ∧ HasScenarioExtension name ∧
          f = ⟨[name]⟩) := by
  rw [← isIgnored_eq_false_iff, ← isScenarioName_iff]
  unfold entryFiles at h
  dsimp only at h
  split at h
  · next hignored =>
    cases h
    simp [hignored]
  · next hvisible =>
    have visible : isIgnored ignored name = false := by simpa using hvisible
    split at h
    · next hdirectory =>
      obtain ⟨found, hfound, rfl⟩ := map_eq_ok_iff.1 h
      simp [visible, hdirectory, hfound]
    · next hfile =>
      have file : isDirectoryAt (Path.join root name) node = false := by simpa using hfile
      cases h
      split <;> simp_all

/-- A directory that is visible and gives something has been gone through. -/
theorem exists_found_of_entryFiles {node : FileTree} {part : List Found}
    (h : entryFiles ignored root (name, node) = .ok part) (visible : IsVisible ignored name)
    (directory : isDirectoryAt (Path.join root name) node) :
    ∃ found, scenarioFiles ignored (Path.join root name) node = .ok found := by
  rw [entryFiles_of_isDirectoryAt (isIgnored_eq_false_iff.2 visible) directory] at h
  obtain ⟨found, hfound, -⟩ := map_eq_ok_iff.1 h
  exact ⟨found, hfound⟩

theorem scenarioFiles_file (ignored : List String) (root : Path) (content : List UInt8) :
    scenarioFiles ignored root (.file content) = .ok [] := by
  rw [scenarioFiles]

/-- A directory gives what its entries give, in the order of their names. -/
theorem scenarioFiles_directory_eq_ok_iff {entries : List (Path × FileTree)} {listed : Bool}
    {found : List Found} :
    scenarioFiles ignored root (.directory entries listed) = .ok found ↔
      listed ∧ ∃ parts, List.Forall₂ (fun entry part => entry.2 = .ok part)
          (inOrder (entries.map fun entry => (entry.1, entryFiles ignored root entry))) parts ∧
        found = parts.flatten := by
  rw [scenarioFiles, scenarioEntries_eq]
  cases listed with
  | false => simp
  | true =>
    rw [if_pos rfl, bind_eq_ok_iff]
    simp only [mapM_eq_ok_iff, true_and]
    exact exists_congr fun parts => and_congr_right fun _ => by simp [pure, Except.pure, eq_comm]

/-- Entries that stand in the order of their names are gone through as they stand. -/
theorem scenarioFiles_of_pairwise {entries : List (Path × FileTree)}
    (sorted : entries.Pairwise fun a b => a.1 ≤ b.1) :
    scenarioFiles ignored root (.directory entries) =
      List.flatten <$> entries.mapM (entryFiles ignored root) := by
  have same : inOrder (entries.map fun entry => (entry.1, entryFiles ignored root entry)) =
      entries.map fun entry => (entry.1, entryFiles ignored root entry) := by
    refine List.mergeSort_of_pairwise (List.pairwise_map.2 ?_)
    exact sorted.imp fun h => by simpa using h
  rw [scenarioFiles, if_pos rfl, scenarioEntries_eq, same, List.mapM_map]
  rfl

section Parts

variable {β γ : Type} {entries : List (β × Except Path (List γ))} {parts : List (List γ)}

theorem mem_flatten_of_forall₂
    (h : List.Forall₂ (fun entry part => entry.2 = .ok part) entries parts) {x : γ} :
    x ∈ parts.flatten ↔ ∃ entry ∈ entries, ∃ part, entry.2 = .ok part ∧ x ∈ part := by
  induction h with
  | nil => simp
  | cons head _ ih => simp [ih, head]

end Parts

/-- What is found in a directory is found in one of its entries. -/
theorem mem_scenarioFiles_directory {entries : List (Path × FileTree)} {listed : Bool}
    {found : List Found}
    (h : scenarioFiles ignored root (.directory entries listed) = .ok found) {f : Found} :
    f ∈ found ↔ ∃ entry ∈ entries, ∃ part,
      entryFiles ignored root entry = .ok part ∧ f ∈ part := by
  obtain ⟨-, parts, hparts, rfl⟩ := scenarioFiles_directory_eq_ok_iff.1 h
  rw [mem_flatten_of_forall₂ hparts]
  constructor
  · rintro ⟨_, hentry, part, hpart, hf⟩
    obtain ⟨entry, hmem, rfl⟩ := List.mem_map.1 (mem_inOrder.1 hentry)
    exact ⟨entry, hmem, part, hpart, hf⟩
  · rintro ⟨entry, hmem, part, hpart, hf⟩
    exact ⟨_, mem_inOrder.2 (List.mem_map_of_mem hmem), part, hpart, hf⟩

/-- If a directory is gone through, each of its entries is. -/
theorem exists_part_of_scenarioFiles {entries : List (Path × FileTree)} {listed : Bool}
    {found : List Found}
    (h : scenarioFiles ignored root (.directory entries listed) = .ok found)
    {entry : Path × FileTree} (hentry : entry ∈ entries) :
    ∃ part, entryFiles ignored root entry = .ok part := by
  obtain ⟨-, parts, hparts, -⟩ := scenarioFiles_directory_eq_ok_iff.1 h
  exact exists_forall₂_iff.1 ⟨parts, hparts⟩ _ (mem_inOrder.2 (List.mem_map_of_mem hentry))

/-! ## What is found -/

/-- What is to be found: an entry with the name of a scenario file, in a directory that can be seen,
with no name on the way that is passed over. It is a file, unless its path is too long to be seen as
that of a directory. -/
structure IsScenarioFile (ignored : List String) (root : Path) (tree : FileTree) (f : Found) :
    Prop where
  node : ∃ node, tree.at? f.names = some node ∧
    (node.isDirectory → longestPath < (f.path root).length)
  visible : ∀ name ∈ f.names, IsVisible ignored name
  extension : ∃ name, f.names.getLast? = some name ∧ HasScenarioExtension name
  seen : (f.names.dropLast.foldl Path.join root).length ≤ longestPath

theorem not_isScenarioFile_file {content : List UInt8} {f : Found} :
    ¬ IsScenarioFile ignored root (.file content) f := by
  obtain ⟨names⟩ := f
  rintro ⟨⟨node, hnode, -⟩, -, ⟨last, hlast, -⟩, -⟩
  cases names with
  | nil => cases hlast
  | cons name rest => cases hnode

/-- What is below a node is seen only if the node is a directory that is seen. -/
theorem isDirectoryAt_of_isScenarioFile {tree : FileTree} (wf : tree.WellFormed) {f : Found}
    (h : IsScenarioFile ignored root tree f) : isDirectoryAt root tree := by
  obtain ⟨⟨node, hnode, -⟩, -, ⟨last, hlast, -⟩, hseen⟩ := h
  obtain ⟨front, hfront⟩ := List.getLast?_eq_some_iff.1 hlast
  rw [hfront, List.dropLast_concat] at hseen
  rw [hfront, FileTree.at?_append] at hnode
  obtain ⟨above, habove, hchild⟩ := Option.bind_eq_some_iff.1 hnode
  have directory : tree.isDirectory := by
    cases tree with
    | file content =>
      cases front with
      | nil =>
        cases habove
        cases hchild
      | cons name rest => cases habove
    | directory entries listed => rfl
  have short := Nat.le_trans (wf.length_le_foldl_join habove root) hseen
  simp [isDirectoryAt, directory, short]

/-- Below an entry that is visible there is to be found what is to be found from there, or else the
entry itself. -/
theorem isScenarioFile_below_iff {tree node : FileTree} (hnode : tree.child? name = some node)
    (short : root.length ≤ longestPath) {f : Found} :
    IsScenarioFile ignored root tree (f.below name) ↔
      IsVisible ignored name ∧
        (IsScenarioFile ignored (Path.join root name) node f ∨
          f.names = [] ∧ isDirectoryAt (Path.join root name) node = false ∧
            HasScenarioExtension name) := by
  obtain ⟨names⟩ := f
  have reached : tree.at? (name :: names) = node.at? names := by simp [hnode]
  rw [isDirectoryAt_eq_false_iff]
  constructor
  · rintro ⟨hat, hvisible, ⟨last, hlast, hextension⟩, hseen⟩
    dsimp only [Found.below] at hat hvisible hlast hseen
    rw [reached] at hat
    refine ⟨hvisible name List.mem_cons_self, ?_⟩
    cases names with
    | nil =>
      obtain ⟨_, hself, hlong⟩ := hat
      cases hself
      cases hlast
      exact .inr ⟨rfl, hlong, hextension⟩
    | cons next rest =>
      rw [List.getLast?_cons_cons] at hlast
      have below : ∀ n ∈ next :: rest, IsVisible ignored n := fun n hn =>
        hvisible n (List.mem_cons_of_mem _ hn)
      exact .inl ⟨hat, below, ⟨last, hlast, hextension⟩, hseen⟩
  · rintro ⟨hname, ⟨hat, hvisible, ⟨last, hlast, hextension⟩, hseen⟩ | ⟨rfl, hlong, hextension⟩⟩
    · cases names with
      | nil => cases hlast
      | cons next rest =>
        refine ⟨reached ▸ hat, ?_, ⟨last, ?_, hextension⟩, hseen⟩
        · exact List.forall_mem_cons.2 ⟨hname, hvisible⟩
        · rwa [Found.below, List.getLast?_cons_cons]
    · refine ⟨⟨node, reached, hlong⟩, ?_, ⟨name, rfl, hextension⟩, short⟩
      exact List.forall_mem_cons.2 ⟨hname, List.forall_mem_nil _⟩

/-- Those files are found that are to be found. -/
theorem mem_scenarioFiles_iff {tree : FileTree} (wf : tree.WellFormed)
    (short : root.length ≤ longestPath) {found : List Found}
    (h : scenarioFiles ignored root tree = .ok found) {f : Found} :
    f ∈ found ↔ IsScenarioFile ignored root tree f := by
  induction wf generalizing root found f with
  | file content =>
    rw [scenarioFiles_file] at h
    cases h
    exact iff_of_false List.not_mem_nil not_isScenarioFile_file
  | directory entries listed nodup isFileName below ih =>
    rw [mem_scenarioFiles_directory h]
    constructor
    · rintro ⟨⟨name, node⟩, hentry, part, hpart, hf⟩
      obtain ⟨hvisible, ⟨hdirectory, inner, hinner, g, hg, rfl⟩ | ⟨hfile, hextension, rfl⟩⟩ :=
        (mem_of_entryFiles hpart).1 hf
      · have shorter := (isDirectoryAt_iff.1 hdirectory).1
        exact (isScenarioFile_below_iff (FileTree.child?_of_mem nodup hentry) short).2
          ⟨hvisible, .inl ((ih (name, node) hentry shorter hinner).1 hg)⟩
      · exact (isScenarioFile_below_iff (f := ⟨[]⟩) (FileTree.child?_of_mem nodup hentry) short).2
          ⟨hvisible, .inr ⟨rfl, hfile, hextension⟩⟩
    · intro hf
      obtain ⟨names⟩ := f
      cases names with
      | nil =>
        obtain ⟨last, hlast, -⟩ := hf.extension
        cases hlast
      | cons name rest =>
        obtain ⟨reached, hreached, -⟩ := hf.node
        obtain ⟨node, hnode, -⟩ := Option.bind_eq_some_iff.1 hreached
        have hentry : (name, node) ∈ entries := FileTree.mem_of_child? hnode
        obtain ⟨part, hpart⟩ := exists_part_of_scenarioFiles h hentry
        refine ⟨(name, node), hentry, part, hpart, (mem_of_entryFiles hpart).2 ?_⟩
        obtain ⟨hvisible, hf | ⟨hrest, hfile, hextension⟩⟩ :=
          (isScenarioFile_below_iff (f := ⟨rest⟩) hnode short).1 hf
        · have hdirectory := isDirectoryAt_of_isScenarioFile (below (name, node) hentry) hf
          have shorter := (isDirectoryAt_iff.1 hdirectory).1
          obtain ⟨inner, hinner⟩ := exists_found_of_entryFiles hpart hvisible hdirectory
          exact ⟨hvisible, .inl ⟨hdirectory, inner, hinner, _,
            (ih (name, node) hentry shorter hinner).2 hf, rfl⟩⟩
        · cases hrest
          exact ⟨hvisible, .inr ⟨hfile, hextension, rfl⟩⟩

/-! ## The order of what is found -/

variable {fs : FileSystem}

theorem discover_eq_ok_iff {found : List Found} :
    discover fs root ignored = .ok found ↔
      ∃ tree, fs.directory? root = some tree ∧ scenarioFiles ignored root tree = .ok found := by
  unfold discover
  cases fs.directory? root with
  | none => simp
  | some tree => cases h : scenarioFiles ignored root tree <;> simp [h, Except.mapError]

theorem discover_eq_error_iff {cause : Error} :
    discover fs root ignored = .error cause ↔
      (fs.directory? root = none ∧ cause = .notFound root) ∨
      ∃ tree path, fs.directory? root = some tree ∧ scenarioFiles ignored root tree = .error path ∧
        cause = .unreadable path .denied := by
  unfold discover
  cases fs.directory? root with
  | none => simp [eq_comm]
  | some tree => cases h : scenarioFiles ignored root tree <;> simp [h, Except.mapError, eq_comm]

theorem discover_eq {tree : FileTree} (h : fs.directory? root = some tree) :
    discover fs root ignored =
      (scenarioFiles ignored root tree).mapError fun path => .unreadable path .denied := by
  rw [discover, h]

/-- Discovery in a directory whose entries are in order. -/
theorem discover_of_pairwise {entries : List (Path × FileTree)}
    (reached : fs.directory? root = some (.directory entries))
    (sorted : entries.Pairwise fun a b => a.1 ≤ b.1) {found : List Found}
    (h : List.flatten <$> entries.mapM (entryFiles ignored root) = .ok found) :
    discover fs root ignored = .ok found := by
  rw [discover_eq reached, scenarioFiles_of_pairwise sorted, h]
  rfl

/-- The path of what is found leads to a file in the place that its names tell. -/
theorem leads_of_mem_scenarioFiles (wf : fs.root.WellFormed) {tree : FileTree}
    (reached : fs.lookUp root = .ok tree) {found : List Found}
    (hfound : scenarioFiles ignored root tree = .ok found) {f : Found} (hf : f ∈ found)
    (short : (f.path root).length ≤ longestPath) :
    (∃ content, fs.lookUp (f.path root) = .ok (.file content)) ∧
      fs.place? (f.path root) = (fs.place? root).map (· ++ f.names) := by
  have wfTree := FileSystem.wellFormed_of_lookUp wf reached
  obtain ⟨⟨node, hnode, hlong⟩, -⟩ :=
    (mem_scenarioFiles_iff wfTree (FileSystem.length_of_lookUp reached) hfound).1 hf
  obtain ⟨hlookUp, hplace⟩ := FileSystem.lookUp_foldl_join wf reached hnode short
  refine ⟨?_, hplace⟩
  cases node with
  | file content => exact ⟨content, hlookUp⟩
  | directory entries listed => exact absurd short (Nat.not_le.2 (hlong rfl))

end Suite

end ScenarioSuite
