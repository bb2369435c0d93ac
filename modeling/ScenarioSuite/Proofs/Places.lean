import ScenarioSuite.Files.Tree
import ScenarioSuite.Proofs.References

/-!
# Where paths lead

A path is followed piece by piece. On the way the names and the nodes between the root and the node
reached are kept as a trail, so that two paths can be compared by where they lead to. On the way to
a directory only the names in a path count, not its empty pieces and its dots. The name of an entry
put behind the path of its directory leads to the entry.

## Main definitions

* `FileTree.at?`: the node that names lead to.
* `FileTree.WellFormed`: the names in each directory differ and can be those of files.
* `FileSystem.trace`: the trail of a path.
* `FileSystem.place?`: the names on the way to where a path leads.
* `FileSystem.Leads`: the names in a path lead along a trail to a directory.

## Main statements

* `FileSystem.lookUp_eq_trace`: a look-up finds the node at the end of the trail.
* `FileSystem.Leads.trace_join`: the trail of a name below a directory.
* `FileSystem.fileName?_of_isFile`: a path that leads to a file ends with the name of the file.
-/

namespace ScenarioSuite

/-! ## Pieces of paths -/

namespace Path

theorem splitSlashes_append_slash (run xs ys : Path) :
    splitSlashes run (xs ++ slash :: ys) = splitSlashes run xs ++ splitSlashes [] ys := by
  induction xs generalizing run with
  | nil => simp [splitSlashes]
  | cons b rest ih =>
    by_cases h : b = slash
    · simp [splitSlashes, h, ih]
    · simp [splitSlashes, h, ih]

theorem splitSlashes_of_not_mem {run bs : Path} (h : slash ∉ bs) :
    splitSlashes run bs = [run ++ bs] := by
  induction bs generalizing run with
  | nil => simp [splitSlashes]
  | cons b rest ih =>
    obtain ⟨hb, hrest⟩ := not_or.1 (mt List.mem_cons.2 h)
    simp [splitSlashes, ih hrest, Ne.symm hb]

theorem splitSlashes_ne_nil (run bs : Path) : splitSlashes run bs ≠ [] := by
  fun_induction splitSlashes run bs <;> simp_all

theorem pieces_ne_nil (path : Path) : pieces path ≠ [] := splitSlashes_ne_nil _ _

theorem pieces_of_not_mem {name : Path} (h : slash ∉ name) : pieces name = [name] :=
  splitSlashes_of_not_mem h

theorem isAbsolute_of_not_mem {name : Path} (h : slash ∉ name) : isAbsolute name = false := by
  rw [← Bool.not_eq_true]
  exact fun absolute => h (List.mem_of_mem_head? (beq_iff_eq.1 absolute))

/-- A name below a directory stands behind the path of the directory, parted from it by a slash if
there is none. -/
theorem join_eq {directory name : Path} (hdirectory : directory ≠ []) (hname : slash ∉ name) :
    join directory name =
      directory ++ (if directory.getLast? = some slash then [] else [slash]) ++ name := by
  unfold join
  rw [isAbsolute_of_not_mem hname, List.isEmpty_eq_false_iff.2 hdirectory]
  simp only [Bool.or_self, Bool.false_eq_true, if_false, beq_iff_eq]
  split <;> simp

theorem join_nil (name : Path) : join [] name = name := by
  simp [join]

theorem mem_join {directory name : Path} (hname : slash ∉ name) {b : UInt8}
    (hb : b ∈ join directory name) : b = slash ∨ b ∈ directory ∨ b ∈ name := by
  by_cases hdirectory : directory = []
  · subst hdirectory
    exact .inr (.inr (join_nil name ▸ hb))
  · rw [join_eq hdirectory hname, List.mem_append, List.mem_append] at hb
    rcases hb with (hb | hb) | hb
    · exact .inr (.inl hb)
    · split at hb
      · cases hb
      · exact .inl (List.mem_singleton.1 hb)
    · exact .inr (.inr hb)

theorem length_le_join (directory : Path) {name : Path} (hname : slash ∉ name) :
    directory.length + name.length ≤ (join directory name).length := by
  by_cases hdirectory : directory = []
  · simp [hdirectory, join_nil]
  · simp only [join_eq hdirectory hname, List.length_append]
    omega

theorem length_join_le (directory : Path) {name : Path} (hname : slash ∉ name) :
    (join directory name).length ≤ directory.length + 1 + name.length := by
  by_cases hdirectory : directory = []
  · simp [hdirectory, join_nil]
  · rw [join_eq hdirectory hname]
    split <;> simp only [List.length_append, List.length_nil, List.length_singleton] <;> omega

theorem isAbsolute_join {directory name : Path} (hdirectory : directory ≠ [])
    (hname : slash ∉ name) : isAbsolute (join directory name) = isAbsolute directory := by
  obtain ⟨b, rest, rfl⟩ := List.exists_cons_of_ne_nil hdirectory
  simp [isAbsolute, join_eq hdirectory hname]

/-- The pieces of a name below a directory are those of the directory, but for an empty one at their
end, and the name. -/
theorem pieces_join {directory name : Path} (hdirectory : directory ≠ []) (hname : slash ∉ name) :
    ∃ front, (pieces directory = front ∨ pieces directory = front ++ [[]]) ∧
      pieces (join directory name) = front ++ [name] := by
  have alone : splitSlashes [] name = [name] := pieces_of_not_mem hname
  rw [pieces, pieces, join_eq hdirectory hname]
  split
  · next hlast =>
    obtain ⟨front, rfl⟩ := List.getLast?_eq_some_iff.1 hlast
    refine ⟨splitSlashes [] front, .inr ?_, ?_⟩
    · rw [splitSlashes_append_slash]
      rfl
    · rw [List.append_nil, List.append_assoc, List.singleton_append, splitSlashes_append_slash,
        alone]
  · refine ⟨splitSlashes [] directory, .inl rfl, ?_⟩
    rw [List.append_assoc, List.singleton_append, splitSlashes_append_slash, alone]

/-- The names in a path: the pieces that count, wherever they stand. -/
def names (path : Path) : List Path :=
  (pieces path).filter isName

/-- Whatever the directory, a name below it is the last piece, behind the names in the path of the
directory. -/
theorem exists_front_join (directory : Path) {name : Path} (hname : slash ∉ name) :
    isAbsolute (join directory name) = isAbsolute directory ∧
      ∃ front, pieces (join directory name) = front ++ [name] ∧
        front.filter isName = names directory := by
  by_cases hdirectory : directory = []
  · subst hdirectory
    rw [join_nil]
    exact ⟨isAbsolute_of_not_mem hname, [], pieces_of_not_mem hname, rfl⟩
  · obtain ⟨front, hfront, hjoined⟩ := pieces_join hdirectory hname
    refine ⟨isAbsolute_join hdirectory hname, front, hjoined, ?_⟩
    rcases hfront with hfront | hfront
    · rw [names, hfront]
    · rw [names, hfront, List.filter_append]
      exact (List.append_nil _).symm

theorem join_ne_nil (directory : Path) {name : Path} (hname : slash ∉ name) (h : name ≠ []) :
    join directory name ≠ [] := by
  intro hempty
  have length := length_le_join directory hname
  rw [hempty, List.length_nil, Nat.le_zero, Nat.add_eq_zero_iff, List.length_eq_zero_iff,
    List.length_eq_zero_iff] at length
  exact h length.2

/-- A last piece that is a name is the name of the path. -/
theorem fileName?_of_pieces {path name : Path} {front : List Path}
    (h : pieces path = front ++ [name]) (hname : isName name) (hup : name ≠ up) :
    fileName? path = some name := by
  have ne_here : name ≠ here := by
    rintro rfl
    cases hname
  have ne_nil : name ≠ [] := by
    rintro rfl
    cases hname
  have last : (parts path).getLast? = some name := by
    unfold parts
    rw [h]
    cases front with
    | nil => simp [ne_nil]
    | cons first rest => simp [List.filter_append, hname]
  simp [fileName?, last, ne_here, hup]

end Path

/-! ## Nodes by their names -/

/-- A name that an entry of a directory can have. -/
structure IsFileName (name : Path) : Prop where
  isName : Path.isName name
  ne_up : name ≠ Path.up
  no_slash : Path.slash ∉ name
  no_zero : 0 ∉ name
  short : name.length ≤ FileSystem.longestName

instance (name : Path) : Decidable (IsFileName name) :=
  decidable_of_iff
    (Path.isName name ∧ name ≠ Path.up ∧ Path.slash ∉ name ∧ 0 ∉ name ∧
      name.length ≤ FileSystem.longestName)
    ⟨fun ⟨h₁, h₂, h₃, h₄, h₅⟩ => ⟨h₁, h₂, h₃, h₄, h₅⟩,
      fun ⟨h₁, h₂, h₃, h₄, h₅⟩ => ⟨h₁, h₂, h₃, h₄, h₅⟩⟩

theorem IsFileName.ne_nil {name : Path} (h : IsFileName name) : name ≠ [] := by
  rintro rfl
  cases h.isName

namespace FileTree

/-- The node that names lead to. -/
def at? : FileTree → List Path → Option FileTree
  | tree, [] => some tree
  | tree, name :: rest => (tree.child? name).bind (·.at? rest)

@[simp] theorem at?_nil (tree : FileTree) : tree.at? [] = some tree := rfl

@[simp] theorem at?_cons (tree : FileTree) (name : Path) (rest : List Path) :
    tree.at? (name :: rest) = (tree.child? name).bind (·.at? rest) := rfl

theorem at?_append (tree : FileTree) (names rest : List Path) :
    tree.at? (names ++ rest) = (tree.at? names).bind (·.at? rest) := by
  induction names generalizing tree with
  | nil => rfl
  | cons name names ih =>
    rw [List.cons_append, at?_cons, at?_cons]
    cases tree.child? name with
    | none => rfl
    | some child => exact ih child

/-- In each directory of the tree the names differ, and each can be that of a file. -/
inductive WellFormed : FileTree → Prop
  | file (content : List UInt8) : WellFormed (.file content)
  | directory (entries : List (Path × FileTree)) (listed : Bool)
      (nodup : (entries.map (·.1)).Nodup)
      (isFileName : ∀ entry ∈ entries, IsFileName entry.1)
      (below : ∀ entry ∈ entries, WellFormed entry.2) : WellFormed (.directory entries listed)

mutual

/-- Whether a tree is well-formed. -/
def isWellFormed : FileTree → Bool
  | .file _ => true
  | .directory entries _ => decide (entries.map (·.1)).Nodup && areWellFormed entries

/-- Whether entries have names of files and are well-formed. -/
def areWellFormed : List (Path × FileTree) → Bool
  | [] => true
  | (name, node) :: rest => decide (IsFileName name) && isWellFormed node && areWellFormed rest

end

mutual

theorem isWellFormed_iff : ∀ tree : FileTree, isWellFormed tree ↔ WellFormed tree
  | .file content => by simp [isWellFormed, WellFormed.file]
  | .directory entries listed => by
    rw [isWellFormed, Bool.and_eq_true, decide_eq_true_iff, areWellFormed_iff entries]
    constructor
    · rintro ⟨nodup, h⟩
      exact .directory entries listed nodup (fun e he => (h e he).1) fun e he => (h e he).2
    · intro wf
      cases wf with
      | directory _ _ nodup isFileName below =>
        exact ⟨nodup, fun e he => ⟨isFileName e he, below e he⟩⟩

theorem areWellFormed_iff : ∀ entries : List (Path × FileTree),
    areWellFormed entries ↔ ∀ e ∈ entries, IsFileName e.1 ∧ WellFormed e.2
  | [] => by simp [areWellFormed]
  | (name, node) :: rest => by
    simp [areWellFormed, isWellFormed_iff node, areWellFormed_iff rest]

end

instance (tree : FileTree) : Decidable (WellFormed tree) :=
  decidable_of_iff _ (isWellFormed_iff tree)

theorem mem_of_child? {entries : List (Path × FileTree)} {listed : Bool} {name : Path}
    {node : FileTree} (h : (directory entries listed).child? name = some node) :
    (name, node) ∈ entries := by
  obtain ⟨front, behind, rfl, -⟩ := List.lookup_eq_some_iff.1 h
  exact List.mem_append_right _ List.mem_cons_self

theorem child?_of_mem {entries : List (Path × FileTree)} {listed : Bool} {name : Path}
    {node : FileTree} (nodup : (entries.map (·.1)).Nodup) (h : (name, node) ∈ entries) :
    (directory entries listed).child? name = some node := by
  obtain ⟨front, behind, rfl⟩ := List.append_of_mem h
  refine List.lookup_eq_some_iff.2 ⟨front, behind, rfl, fun entry hentry => ?_⟩
  rw [List.map_append, List.nodup_append] at nodup
  have different := nodup.2.2 entry.1 (List.mem_map_of_mem hentry) name
    (List.mem_map_of_mem (f := (·.1)) (List.mem_cons_self (a := (name, node))))
  simpa using Ne.symm different

theorem isDirectory_of_child? {tree child : FileTree} {name : Path}
    (h : tree.child? name = some child) : tree.isDirectory := by
  cases tree with
  | file content => cases h
  | directory entries listed => rfl

end FileTree

namespace FileTree.WellFormed

variable {tree child : FileTree} {name : Path}

theorem isFileName_of_child? (wf : tree.WellFormed) (h : tree.child? name = some child) :
    IsFileName name := by
  cases wf with
  | file content => cases h
  | directory entries _ _ isFileName _ => exact isFileName (name, child) (mem_of_child? h)

theorem child? (wf : tree.WellFormed) (h : tree.child? name = some child) : child.WellFormed := by
  cases wf with
  | file content => cases h
  | directory entries _ _ _ below => exact below (name, child) (mem_of_child? h)

theorem at? {names : List Path} (wf : tree.WellFormed) (h : tree.at? names = some child) :
    child.WellFormed := by
  induction names generalizing tree with
  | nil =>
    cases h
    exact wf
  | cons name rest ih =>
    obtain ⟨next, hnext, hrest⟩ := Option.bind_eq_some_iff.1 h
    exact ih (wf.child? hnext) hrest

/-- Names put behind a path make it longer. -/
theorem length_le_foldl_join {names : List Path} (wf : tree.WellFormed)
    (h : tree.at? names = some child) (directory : Path) :
    directory.length ≤ (names.foldl Path.join directory).length := by
  induction names generalizing tree directory with
  | nil => exact Nat.le_refl _
  | cons name rest ih =>
    obtain ⟨next, hnext, hrest⟩ := Option.bind_eq_some_iff.1 h
    have joined := Path.length_le_join directory (wf.isFileName_of_child? hnext).no_slash
    exact Nat.le_trans (Nat.le_of_add_right_le joined) (ih (wf.child? hnext) hrest _)

end FileTree.WellFormed

/-! ## Trails -/

/-- The names and the nodes between the root and a node, the last in front. -/
abbrev Trail := List (Path × FileTree)

namespace Trail

variable (root : FileTree)

/-- The node at the end. -/
def node : Trail → FileTree
  | [] => root
  | (_, node) :: _ => node

/-- The nodes above the one at the end, the last in front. -/
def above : Trail → List FileTree
  | [] => []
  | _ :: rest => node root rest :: above rest

/-- The names from the root on. -/
def names (trail : Trail) : List Path :=
  (trail.map (·.1)).reverse

/-- Each node is an entry of the one before it. -/
def Linked : Trail → Prop
  | [] => True
  | (name, child) :: rest => (node root rest).child? name = some child ∧ Linked rest

@[simp] theorem names_cons (entry : Path × FileTree) (trail : Trail) :
    names (entry :: trail) = trail.names ++ [entry.1] := by
  simp [names]

/-- The names of a trail lead from the root to its end. -/
theorem Linked.at?_names {trail : Trail} (h : Linked root trail) :
    root.at? trail.names = some (node root trail) := by
  induction trail with
  | nil => rfl
  | cons entry rest ih =>
    obtain ⟨name, child⟩ := entry
    obtain ⟨hchild, hrest⟩ := h
    rw [names_cons, FileTree.at?_append, ih hrest]
    simpa [node] using hchild

end Trail

namespace FileSystem

/-- One step along a path. -/
def step (root : FileTree) (trail : Trail) (piece : Path) : Except FileError Trail :=
  let node := Trail.node root trail
  if !node.isDirectory then .error .notDirectory
  else if !Path.isName piece then .ok trail
  else if piece == Path.up then .ok trail.tail
  else if longestName < piece.length then .error .nameTooLong
  else match node.child? piece with
    | none => .error .notFound
    | some child => .ok ((piece, child) :: trail)

/-- Pieces are followed step by step. -/
theorem follow_eq (root : FileTree) (pieces : List Path) (trail : Trail) :
    follow pieces (Trail.above root trail) (Trail.node root trail) =
      Trail.node root <$> pieces.foldlM (step root) trail := by
  induction pieces generalizing trail with
  | nil => rfl
  | cons piece rest ih =>
    unfold follow
    rw [List.foldlM_cons, step]
    split
    · rfl
    · split
      · exact ih trail
      · split
        · cases trail with
          | nil => exact ih []
          | cons entry rest => exact ih rest
        · split
          · rfl
          · cases (Trail.node root trail).child? piece with
            | none => rfl
            | some child => exact ih ((piece, child) :: trail)

/-- The pieces that lead from the root to where a path leads. -/
def fromRoot (fs : FileSystem) (path : Path) : List Path :=
  (if Path.isAbsolute path then [] else fs.current) ++ Path.pieces path

/-- The trail of a path. -/
def trace (fs : FileSystem) (path : Path) : Except FileError Trail :=
  if path.contains 0 then .error .zeroInName
  else if path.isEmpty then .error .notFound
  else if longestPath < path.length then .error .nameTooLong
  else (fs.fromRoot path).foldlM (step fs.root) []

/-- The names on the way from the root to where a path leads, if it leads somewhere. -/
def place? (fs : FileSystem) (path : Path) : Option (List Path) :=
  (fs.trace path).toOption.map Trail.names

/-- A look-up finds the node at the end of the trail. -/
theorem lookUp_eq_trace (fs : FileSystem) (path : Path) :
    fs.lookUp path = Trail.node fs.root <$> fs.trace path := by
  have followed := follow_eq fs.root (fs.fromRoot path) []
  unfold lookUp trace
  split
  · rfl
  · split
    · rfl
    · split
      · rfl
      · refine Eq.trans ?_ followed
        rw [fromRoot]
        split <;> rfl

theorem lookUp_eq_ok_iff {fs : FileSystem} {path : Path} {node : FileTree} :
    fs.lookUp path = .ok node ↔ ∃ trail, fs.trace path = .ok trail ∧ trail.node fs.root = node := by
  rw [lookUp_eq_trace, map_eq_ok_iff]

/-- What one step does. -/
theorem step_eq_ok {root : FileTree} {trail trail' : Trail} {piece : Path}
    (h : step root trail piece = .ok trail') :
    (Trail.node root trail).isDirectory ∧
      (¬ Path.isName piece ∧ trail' = trail ∨
        piece = Path.up ∧ trail' = trail.tail ∨
        (Path.isName piece ∧ piece ≠ Path.up) ∧
          ∃ child, (Trail.node root trail).child? piece = some child ∧
            trail' = (piece, child) :: trail) := by
  unfold step at h
  dsimp only at h
  split at h
  · cases h
  · next hdirectory =>
    refine ⟨by simpa using hdirectory, ?_⟩
    split at h
    · next hsame =>
      cases h
      exact .inl ⟨by simpa using hsame, rfl⟩
    · next hother =>
      split at h
      · next hup =>
        cases h
        exact .inr (.inl ⟨by simpa using hup, rfl⟩)
      · next hdown =>
        split at h
        · cases h
        · split at h
          · cases h
          · next child hchild =>
            cases h
            refine .inr (.inr ⟨?_, child, hchild, rfl⟩)
            exact ⟨by simpa using hother, by simpa using hdown⟩

theorem step_of_child? {root child : FileTree} {trail : Trail} {name : Path}
    (hname : IsFileName name) (h : (Trail.node root trail).child? name = some child) :
    step root trail name = .ok ((name, child) :: trail) := by
  have directory := FileTree.isDirectory_of_child? h
  have short : ¬ longestName < name.length := Nat.not_lt.2 hname.short
  simp [step, directory, hname.isName, hname.ne_up, short, h]

theorem linked_step {root : FileTree} {trail trail' : Trail} {piece : Path}
    (linked : trail.Linked root) (h : step root trail piece = .ok trail') :
    trail'.Linked root := by
  obtain ⟨-, ⟨-, rfl⟩ | ⟨-, rfl⟩ | ⟨-, child, hchild, rfl⟩⟩ := step_eq_ok h
  · exact linked
  · cases trail with
    | nil => exact linked
    | cons entry rest => exact linked.2
  · exact ⟨hchild, linked⟩

theorem linked_foldlM {root : FileTree} {pieces : List Path} {trail trail' : Trail}
    (linked : trail.Linked root) (h : pieces.foldlM (step root) trail = .ok trail') :
    trail'.Linked root := by
  induction pieces generalizing trail with
  | nil =>
    cases h
    exact linked
  | cons piece rest ih =>
    rw [List.foldlM_cons] at h
    obtain ⟨next, hnext, hrest⟩ := bind_eq_ok_iff.1 h
    exact ih (linked_step linked hnext) hrest

theorem trace_eq_ok_iff {fs : FileSystem} {path : Path} {trail : Trail} :
    fs.trace path = .ok trail ↔
      0 ∉ path ∧ path ≠ [] ∧ path.length ≤ longestPath ∧
        (fs.fromRoot path).foldlM (step fs.root) [] = .ok trail := by
  unfold trace
  split
  · next hzero => simp_all
  · next hzero =>
    split
    · next hempty => simp_all
    · next hempty =>
      split
      · next long => simp [Nat.not_le.2 long]
      · next short => simp_all

theorem linked_trace {fs : FileSystem} {path : Path} {trail : Trail}
    (h : fs.trace path = .ok trail) : trail.Linked fs.root :=
  linked_foldlM (show Trail.Linked fs.root [] from trivial) (trace_eq_ok_iff.1 h).2.2.2

section Walk

variable {root : FileTree} {trail trail' : Trail} {pieces : List Path}

theorem isDirectory_of_foldlM (h : pieces.foldlM (step root) trail = .ok trail')
    (directory : (trail'.node root).isDirectory) : (trail.node root).isDirectory := by
  cases pieces with
  | nil =>
    cases h
    exact directory
  | cons piece rest =>
    rw [List.foldlM_cons] at h
    obtain ⟨next, hnext, -⟩ := bind_eq_ok_iff.1 h
    exact (step_eq_ok hnext).1

theorem step_eq_self_of_not_isName {piece : Path} (h : ¬ Path.isName piece)
    (directory : (trail.node root).isDirectory) : step root trail piece = .ok trail := by
  simp [step, directory, h]

/-- On the way to a directory only names count. -/
theorem foldlM_filter_isName_iff (directory : (trail'.node root).isDirectory) :
    (pieces.filter Path.isName).foldlM (step root) trail = .ok trail' ↔
      pieces.foldlM (step root) trail = .ok trail' := by
  induction pieces generalizing trail with
  | nil => rfl
  | cons piece rest ih =>
    by_cases h : Path.isName piece
    · rw [List.filter_cons_of_pos h, List.foldlM_cons, List.foldlM_cons, bind_eq_ok_iff,
        bind_eq_ok_iff]
      simp only [ih]
    · rw [List.filter_cons_of_neg h, ih, List.foldlM_cons, bind_eq_ok_iff]
      constructor
      · intro hrest
        exact ⟨trail, step_eq_self_of_not_isName h (isDirectory_of_foldlM hrest directory), hrest⟩
      · rintro ⟨next, hnext, hrest⟩
        cases (step_eq_self_of_not_isName h (step_eq_ok hnext).1).symm.trans hnext
        exact hrest

end Walk

/-- The trail of names, from where an absolute or a relative path begins. -/
def walk (fs : FileSystem) (absolute : Bool) (names : List Path) : Except FileError Trail :=
  ((if absolute then [] else fs.current) ++ names).foldlM (step fs.root) []

theorem walk_filter_isName_iff {fs : FileSystem} {absolute : Bool} {pieces : List Path}
    {trail : Trail} (directory : (trail.node fs.root).isDirectory) :
    fs.walk absolute (pieces.filter Path.isName) = .ok trail ↔
      fs.walk absolute pieces = .ok trail := by
  rw [walk, walk, List.foldlM_append, List.foldlM_append, bind_eq_ok_iff, bind_eq_ok_iff]
  simp only [foldlM_filter_isName_iff directory]

/-- The names in a path lead along a trail to a directory. The empty path leads to the working
directory. -/
structure Leads (fs : FileSystem) (path : Path) (trail : Trail) : Prop where
  no_zero : 0 ∉ path
  followed : fs.walk (Path.isAbsolute path) (Path.names path) = .ok trail
  isDirectory : (trail.node fs.root).isDirectory

theorem leads_of_trace {fs : FileSystem} {path : Path} {trail : Trail}
    (h : fs.trace path = .ok trail) (directory : (trail.node fs.root).isDirectory) :
    fs.Leads path trail := by
  obtain ⟨hzero, -, -, hfollowed⟩ := trace_eq_ok_iff.1 h
  exact ⟨hzero, (walk_filter_isName_iff directory).2 hfollowed, directory⟩

namespace Leads

variable {fs : FileSystem} {directory name : Path} {trail : Trail}

theorem linked (h : fs.Leads directory trail) : trail.Linked fs.root :=
  linked_foldlM (show Trail.Linked fs.root [] from trivial) h.followed

/-- A name below a directory is one step away. -/
theorem foldlM_join (h : fs.Leads directory trail) (hname : Path.slash ∉ name) :
    (fs.fromRoot (Path.join directory name)).foldlM (step fs.root) [] =
      step fs.root trail name := by
  obtain ⟨habsolute, front, hpieces, hfront⟩ := Path.exists_front_join directory hname
  have reached : fs.walk (Path.isAbsolute directory) front = .ok trail :=
    (walk_filter_isName_iff h.isDirectory).1 (hfront ▸ h.followed)
  rw [walk] at reached
  rw [fromRoot, habsolute, hpieces, ← List.append_assoc, List.foldlM_append, reached, ok_bind,
    List.foldlM_cons]
  cases step fs.root trail name <;> rfl

/-- The trail of a name below a directory. -/
theorem trace_join {child : FileTree} (h : fs.Leads directory trail) (hname : IsFileName name)
    (hchild : (trail.node fs.root).child? name = some child)
    (short : (Path.join directory name).length ≤ longestPath) :
    fs.trace (Path.join directory name) = .ok ((name, child) :: trail) := by
  refine trace_eq_ok_iff.2 ⟨?_, Path.join_ne_nil directory hname.no_slash hname.ne_nil, short, ?_⟩
  · intro hmem
    rcases Path.mem_join hname.no_slash hmem with heq | hmem | hmem
    · exact absurd heq (by decide)
    · exact h.no_zero hmem
    · exact hname.no_zero hmem
  · rw [h.foldlM_join hname.no_slash]
    exact step_of_child? hname hchild

end Leads

/-- The trail of names below a directory. -/
theorem trace_foldl_join {fs : FileSystem} {names : List Path} {directory : Path}
    {trail : Trail} {node : FileTree} (hdirectory : fs.trace directory = .ok trail)
    (wf : (trail.node fs.root).WellFormed) (h : (trail.node fs.root).at? names = some node)
    (short : (names.foldl Path.join directory).length ≤ longestPath) :
    ∃ trail', fs.trace (names.foldl Path.join directory) = .ok trail' ∧
      trail'.node fs.root = node ∧ trail'.names = trail.names ++ names := by
  induction names generalizing directory trail with
  | nil =>
    rw [FileTree.at?_nil, Option.some_inj] at h
    exact ⟨trail, hdirectory, h, by simp⟩
  | cons name rest ih =>
    rw [FileTree.at?_cons] at h
    obtain ⟨child, hchild, hrest⟩ := Option.bind_eq_some_iff.1 h
    have leads := leads_of_trace hdirectory (FileTree.isDirectory_of_child? hchild)
    have wfChild := wf.child? hchild
    have joined := leads.trace_join (wf.isFileName_of_child? hchild) hchild
      (Nat.le_trans (wfChild.length_le_foldl_join hrest _) short)
    obtain ⟨trail', htrace, hnode, hnames⟩ := ih joined wfChild hrest short
    refine ⟨trail', htrace, hnode, ?_⟩
    rw [hnames, Trail.names_cons, List.append_assoc, List.singleton_append]

theorem lookUp_of_directory? {fs : FileSystem} {path : Path} {tree : FileTree}
    (h : fs.directory? path = some tree) : fs.lookUp path = .ok tree := by
  unfold directory? at h
  split at h
  · next entries listed hlookUp =>
    cases h
    exact hlookUp
  · cases h

theorem length_of_lookUp {fs : FileSystem} {path : Path} {node : FileTree}
    (h : fs.lookUp path = .ok node) : path.length ≤ longestPath := by
  obtain ⟨trail, htrace, -⟩ := lookUp_eq_ok_iff.1 h
  exact (trace_eq_ok_iff.1 htrace).2.2.1

theorem length_of_place? {fs : FileSystem} {path : Path} {names : List Path}
    (h : fs.place? path = some names) : path.length ≤ longestPath := by
  obtain ⟨trail, htrace, -⟩ := Option.map_eq_some_iff.1 h
  exact (trace_eq_ok_iff.1 (toOption_eq_some_iff.1 htrace)).2.2.1

theorem isDirectory_of_directory? {fs : FileSystem} {path : Path} {tree : FileTree}
    (h : fs.directory? path = some tree) : tree.isDirectory := by
  unfold directory? at h
  split at h
  · cases h
    rfl
  · cases h

theorem wellFormed_of_lookUp {fs : FileSystem} (wf : fs.root.WellFormed) {path : Path}
    {node : FileTree} (h : fs.lookUp path = .ok node) : node.WellFormed := by
  obtain ⟨trail, htrace, rfl⟩ := lookUp_eq_ok_iff.1 h
  exact wf.at? (Trail.Linked.at?_names fs.root (linked_trace htrace))

/-- Names put behind the path of a directory lead where they lead from the directory. -/
theorem lookUp_foldl_join {fs : FileSystem} (wf : fs.root.WellFormed) {directory : Path}
    {tree node : FileTree} (hdirectory : fs.lookUp directory = .ok tree) {names : List Path}
    (hnode : tree.at? names = some node)
    (short : (names.foldl Path.join directory).length ≤ longestPath) :
    fs.lookUp (names.foldl Path.join directory) = .ok node ∧
      fs.place? (names.foldl Path.join directory) = (fs.place? directory).map (· ++ names) := by
  have wfTree := wellFormed_of_lookUp wf hdirectory
  obtain ⟨trail, htrace, rfl⟩ := lookUp_eq_ok_iff.1 hdirectory
  obtain ⟨trail', htrace', rfl, hnames⟩ := trace_foldl_join htrace wfTree hnode short
  refine ⟨lookUp_eq_ok_iff.2 ⟨trail', htrace', rfl⟩, ?_⟩
  simp [place?, htrace, htrace', hnames, Except.toOption]

theorem isDirectory_node_tail {root : FileTree} {trail : Trail} (linked : trail.Linked root)
    (h : (trail.node root).isDirectory) : (Trail.node root trail.tail).isDirectory := by
  cases trail with
  | nil => exact h
  | cons entry rest => exact FileTree.isDirectory_of_child? linked.1

/-- A step that ends at a file leads down to it: steps that stay or go up end at a directory. -/
theorem exists_child_of_step {root : FileTree} {trail trail' : Trail} {piece : Path}
    (linked : trail.Linked root) (h : step root trail piece = .ok trail')
    (file : (trail'.node root).isDirectory = false) :
    (Path.isName piece ∧ piece ≠ Path.up) ∧
      ∃ child, (trail.node root).child? piece = some child ∧ trail' = (piece, child) :: trail := by
  obtain ⟨directory, ⟨-, rfl⟩ | ⟨-, rfl⟩ | down⟩ := step_eq_ok h
  · cases directory.symm.trans file
  · cases (isDirectory_node_tail linked directory).symm.trans file
  · exact down

theorem isFile_iff {fs : FileSystem} {path : Path} :
    fs.isFile path ↔ ∃ content, fs.lookUp path = .ok (.file content) := by
  unfold isFile
  split
  · next content h => simp [h]
  · next h =>
    constructor
    · rintro ⟨⟩
    · rintro ⟨content, hfile⟩
      exact absurd hfile (h content)

/-- A file is at the end of a trail. -/
theorem exists_trace_of_isFile {fs : FileSystem} {path : Path} (h : fs.isFile path) :
    ∃ trail, fs.trace path = .ok trail ∧ (trail.node fs.root).isDirectory = false := by
  obtain ⟨content, hfile⟩ := isFile_iff.1 h
  obtain ⟨trail, htrace, hnode⟩ := lookUp_eq_ok_iff.1 hfile
  exact ⟨trail, htrace, by rw [hnode]; rfl⟩

/-- A path that leads to a file ends with the name of the file, which is the last on the way. -/
theorem fileName?_of_isFile {fs : FileSystem} {path : Path} (h : fs.isFile path) :
    ∃ front pieces name, Path.pieces path = pieces ++ [name] ∧
      Path.fileName? path = some name ∧ fs.place? path = some (front ++ [name]) := by
  obtain ⟨trail, htrace, hfile⟩ := exists_trace_of_isFile h
  obtain ⟨-, -, -, hfollowed⟩ := trace_eq_ok_iff.1 htrace
  have split := List.dropLast_concat_getLast (Path.pieces_ne_nil path)
  rw [fromRoot, ← split, ← List.append_assoc, List.foldlM_append] at hfollowed
  obtain ⟨mid, hmid, hlast⟩ := bind_eq_ok_iff.1 hfollowed
  rw [List.foldlM_cons] at hlast
  obtain ⟨last, hstep, hdone⟩ := bind_eq_ok_iff.1 hlast
  cases hdone
  have linked : mid.Linked fs.root := linked_foldlM (show Trail.Linked fs.root [] from trivial) hmid
  obtain ⟨proper, child, -, rfl⟩ := exists_child_of_step linked hstep hfile
  refine ⟨mid.names, _, _, split.symm, ?_, ?_⟩
  · exact Path.fileName?_of_pieces split.symm proper.1 proper.2
  · simp [place?, htrace, Except.toOption]

end FileSystem

end ScenarioSuite
