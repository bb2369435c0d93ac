import Mathlib.Data.List.DropRight
import Mathlib.Data.List.Infix
import ScenarioSuite.Proofs.Places

/-!
# Paths without their last parts

The parent of a path is its text without the last part. Where the path leads to a directory, its
parent leads to the directory that is reached without the last of its names. As long as no name is a
step up, that is the directory above, except that a relative path comes to its end at the working
directory.

## Main definitions

* `FileSystem.upwards`: where a path leads when names are taken off its end one by one.

## Main statements

* `Path.names_parent`: the parent of a path lacks the last of its names.
* `FileSystem.Leads.parent`: the parent of a path that leads to a directory leads to one, too.
* `FileSystem.Leads.exists_upwards`: the directories upwards from a path and from its parent.
* `FileSystem.Leads.exists_origin`: without steps up these are directories above one another.
-/

namespace ScenarioSuite

/-! ## The bytes of a parent -/

namespace Path

theorem not_mem_splitSlashes {run bs piece : Path} (hrun : slash ∉ run)
    (h : piece ∈ splitSlashes run bs) : slash ∉ piece := by
  fun_induction splitSlashes run bs with
  | case1 run =>
    rw [List.mem_singleton.1 h]
    exact hrun
  | case2 run rest ih =>
    rcases List.mem_cons.1 h with rfl | h
    · exact hrun
    · exact ih List.not_mem_nil h
  | case3 run b rest other ih =>
    refine ih (fun hmem => ?_) h
    rcases List.mem_append.1 hmem with hmem | hmem
    · exact hrun hmem
    · exact other (List.mem_singleton.1 hmem).symm

theorem no_slash_of_mem_pieces {path piece : Path} (h : piece ∈ pieces path) : slash ∉ piece :=
  not_mem_splitSlashes List.not_mem_nil h

theorem intercalate_splitSlashes (run bs : Path) :
    [slash].intercalate (splitSlashes run bs) = run ++ bs := by
  fun_induction splitSlashes run bs with
  | case1 run => rw [List.intercalate_singleton, List.append_nil]
  | case2 run rest ih =>
    obtain ⟨next, others, hsplit⟩ := List.exists_cons_of_ne_nil (splitSlashes_ne_nil [] rest)
    rw [hsplit, List.intercalate_cons_cons, ← hsplit, ih]
    simp
  | case3 run b rest other ih => rw [ih, List.append_assoc, List.singleton_append]

/-- The pieces of a path with slashes between them are the path. -/
theorem intercalate_pieces (path : Path) : [slash].intercalate (pieces path) = path :=
  intercalate_splitSlashes [] path

theorem pieces_intercalate {ps : List Path} (single : ∀ p ∈ ps, slash ∉ p) (h : ps ≠ []) :
    pieces ([slash].intercalate ps) = ps := by
  induction ps with
  | nil => exact absurd rfl h
  | cons p rest ih =>
    have hp := single p List.mem_cons_self
    cases rest with
    | nil => rw [List.intercalate_singleton, pieces_of_not_mem hp]
    | cons q rest =>
      have behind := ih (fun r hr => single r (List.mem_cons_of_mem p hr)) (List.cons_ne_nil q rest)
      rw [List.intercalate_cons_cons, List.append_assoc, List.singleton_append, pieces,
        splitSlashes_append_slash, ← pieces, ← pieces, behind, pieces_of_not_mem hp]
      rfl

theorem intercalate_append {ps qs : List Path} (hps : ps ≠ []) (hqs : qs ≠ []) :
    [slash].intercalate (ps ++ qs) = [slash].intercalate ps ++ slash :: [slash].intercalate qs := by
  induction ps with
  | nil => exact absurd rfl hps
  | cons p rest ih =>
    cases rest with
    | nil =>
      obtain ⟨q, qs, rfl⟩ := List.exists_cons_of_ne_nil hqs
      rw [List.singleton_append, List.intercalate_cons_cons, List.intercalate_singleton,
        List.append_assoc, List.singleton_append]
    | cons p' rest =>
      rw [List.cons_append, List.cons_append, List.intercalate_cons_cons, ← List.cons_append,
        ih (List.cons_ne_nil _ _), List.intercalate_cons_cons, List.append_assoc _ _ (slash :: _)]

/-- A path is absolute if its first piece is empty and others follow. -/
theorem isAbsolute_iff_pieces {path first : Path} {rest : List Path}
    (h : pieces path = first :: rest) : isAbsolute path ↔ first = [] ∧ rest ≠ [] := by
  have hfirst : slash ∉ first := no_slash_of_mem_pieces (h ▸ List.mem_cons_self)
  have hpath := intercalate_pieces path
  rw [h] at hpath
  cases rest with
  | nil =>
    rw [← hpath, List.intercalate_singleton, isAbsolute_of_not_mem hfirst]
    simp
  | cons next rest =>
    rw [← hpath, List.intercalate_cons_cons, isAbsolute]
    cases first with
    | nil => simp
    | cons b first =>
      have hb : b ≠ slash := fun heq => hfirst (heq ▸ List.mem_cons_self)
      simp [hb]

section Names

variable {ps : List Path}

theorem exists_eq_upToName_append (ps : List Path) :
    ∃ tail, ps = upToName ps ++ tail ∧ tail.filter isName = [] := by
  refine ⟨ps.rtakeWhile fun piece => !isName piece, List.rdropWhile_append_rtakeWhile.symm, ?_⟩
  refine List.filter_eq_nil_iff.2 fun piece hpiece => ?_
  simpa using List.mem_rtakeWhile_imp hpiece

@[simp] theorem filter_upToName (ps : List Path) :
    (upToName ps).filter isName = ps.filter isName := by
  obtain ⟨tail, heq, htail⟩ := exists_eq_upToName_append ps
  rw [congrArg (List.filter isName) heq, List.filter_append, htail, List.append_nil]

theorem filter_of_upToName_eq_nil (h : upToName ps = []) : ps.filter isName = [] := by
  rw [← filter_upToName, h, List.filter_nil]

theorem isName_of_upToName {front : List Path} {last : Path} (h : upToName ps = front ++ [last]) :
    isName last := by
  have ne_nil : ps.rdropWhile (fun piece => !isName piece) ≠ [] := by
    change upToName ps ≠ []
    simp [h]
  have named := List.rdropWhile_last_not _ _ ne_nil
  have same : (ps.rdropWhile fun piece => !isName piece).getLast ne_nil = last := by
    refine List.getLast_eq_iff_getLast?_eq_some ne_nil |>.2 ?_
    change (upToName ps).getLast? = some last
    rw [h, List.getLast?_concat]
  simpa [same] using named

end Names

section Parent

variable {path above : Path}

/-- What the parent of a path is: nothing, if no name stands behind the first piece, and else what
stands in front of the last name. -/
theorem parent?_eq_some (h : parent? path = some above) :
    ∃ first rest, pieces path = first :: rest ∧
      (first ≠ [] ∧ rest.filter isName = [] ∧ above = [] ∨
        ∃ front last tail, rest = front ++ last :: tail ∧ isName last ∧
          tail.filter isName = [] ∧
          above = if first = [] ∧ upToName front = [] then [slash]
            else [slash].intercalate (first :: upToName front)) := by
  unfold parent? at h
  split at h
  · cases h
  · next first rest hpieces =>
    refine ⟨first, rest, hpieces, ?_⟩
    split at h
    · next hnone =>
      split at h
      · cases h
      · next hfirst =>
        exact .inl ⟨by simpa using hfirst, filter_of_upToName_eq_nil hnone,
          (Option.some.inj h).symm⟩
    · next named hnamed =>
      obtain ⟨front, last, hlast⟩ := (List.eq_nil_or_concat (upToName rest)).resolve_left hnamed
      rw [List.concat_eq_append] at hlast
      obtain ⟨tail, heq, htail⟩ := exists_eq_upToName_append rest
      have drop : (upToName rest).dropLast = front := by
        rw [hlast, List.dropLast_concat]
      refine .inr ⟨front, last, tail, ?_, isName_of_upToName hlast, htail, ?_⟩
      · rw [heq, hlast, List.append_assoc, List.singleton_append]
      · rw [drop] at h
        split at h
        · next hfront =>
          rw [hfront, List.intercalate_singleton, ← Option.some.inj h]
          simp
        · next hfront =>
          rw [← Option.some.inj h, if_neg fun hroot => hfront hroot.2]

theorem names_of_parent?_eq_none (h : parent? path = none) : names path = [] := by
  unfold parent? at h
  split at h
  · next hpieces => exact absurd hpieces (pieces_ne_nil path)
  · next first rest hpieces =>
    split at h
    · next hnone =>
      split at h
      · next hfirst =>
        obtain rfl := List.isEmpty_iff.1 hfirst
        rw [names, hpieces, List.filter_cons_of_neg (by decide), filter_of_upToName_eq_nil hnone]
      · cases h
    · split at h <;> cases h

theorem pieces_of_front {first last : Path} {front tail : List Path}
    (h : pieces path = first :: (front ++ last :: tail)) :
    pieces ([slash].intercalate (first :: upToName front)) = first :: upToName front := by
  obtain ⟨behind, hfront, -⟩ := exists_eq_upToName_append front
  refine pieces_intercalate (fun piece hpiece => ?_) (List.cons_ne_nil _ _)
  have hmem : piece ∈ pieces path := by
    rw [h, hfront]
    rcases List.mem_cons.1 hpiece with rfl | hpiece
    · exact List.mem_cons_self
    · simp [hpiece]
  exact no_slash_of_mem_pieces hmem

/-- The path without its last part lacks the last of its names. -/
theorem names_parent (h : parent? path = some above) : names above = (names path).dropLast := by
  obtain ⟨first, rest, hpieces, ⟨-, hrest, rfl⟩ | ⟨front, last, tail, rfl, hlast, htail, habove⟩⟩ :=
    parent?_eq_some h
  · rw [names, names, hpieces, List.filter_cons, hrest]
    split <;> rfl
  · have dropped : (names path).dropLast = (first :: front).filter isName := by
      rw [names, hpieces, ← List.cons_append, List.filter_append, List.filter_cons_of_pos hlast,
        htail, List.dropLast_concat]
    rw [dropped, habove]
    split
    · next hroot =>
      rw [hroot.1, List.filter_cons_of_neg (by decide), filter_of_upToName_eq_nil hroot.2]
      rfl
    · rw [names, pieces_of_front hpieces, List.filter_cons, List.filter_cons, filter_upToName]

/-- The parent is what a path begins with. -/
theorem exists_append_of_parent? (h : parent? path = some above) :
    ∃ behind, behind ≠ [] ∧ path = above ++ behind := by
  have hpath := intercalate_pieces path
  obtain ⟨first, rest, hpieces, ⟨hfirst, -, rfl⟩ | ⟨front, last, tail, rfl, hlast, -, habove⟩⟩ :=
    parent?_eq_some h
  · refine ⟨path, ?_, rfl⟩
    rintro rfl
    cases hpieces
    exact hfirst rfl
  · rw [hpieces] at hpath
    rw [habove]
    split
    · next hroot =>
      refine ⟨[slash].intercalate (front ++ last :: tail), fun hnil => ?_, ?_⟩
      · -- No piece would be left in the rest of the path.
        have single : ∀ piece ∈ front ++ last :: tail, slash ∉ piece := fun piece hpiece =>
          no_slash_of_mem_pieces (hpieces ▸ List.mem_cons_of_mem _ hpiece)
        have behind := pieces_intercalate single (by simp)
        rw [hnil] at behind
        have hmem : last ∈ pieces [] := behind ▸ List.mem_append_right _ List.mem_cons_self
        rw [List.mem_singleton.1 hmem] at hlast
        cases hlast
      · rw [← hpath, hroot.1]
        exact intercalate_append (List.cons_ne_nil [] []) (by simp)
    · obtain ⟨behind, hfront, -⟩ := exists_eq_upToName_append front
      refine ⟨slash :: [slash].intercalate (behind ++ last :: tail), List.cons_ne_nil _ _, ?_⟩
      rw [← intercalate_append (List.cons_ne_nil _ _) (by simp), List.cons_append,
        ← List.append_assoc, ← hfront, hpath]

theorem isAbsolute_parent (h : parent? path = some above) :
    isAbsolute above = isAbsolute path := by
  rw [Bool.eq_iff_iff]
  obtain ⟨first, rest, hpieces, ⟨hfirst, -, rfl⟩ | ⟨front, last, tail, rfl, -, -, habove⟩⟩ :=
    parent?_eq_some h
  · rw [isAbsolute_iff_pieces hpieces]
    simp [hfirst, isAbsolute]
  · rw [isAbsolute_iff_pieces hpieces, habove]
    split
    · next hroot => simp [hroot.1, isAbsolute]
    · next hother =>
      rw [isAbsolute_iff_pieces (pieces_of_front hpieces)]
      exact ⟨fun h => ⟨h.1, by simp⟩, fun h => ⟨h.1, fun hfront => hother ⟨h.1, hfront⟩⟩⟩

theorem mem_of_mem_parent (h : parent? path = some above) {b : UInt8} (hb : b ∈ above) :
    b ∈ path := by
  obtain ⟨behind, -, rfl⟩ := exists_append_of_parent? h
  exact List.mem_append_left _ hb

/-- A name below the parent has a shorter path than one below the directory. -/
theorem length_join_parent_le (h : parent? path = some above) {name : Path}
    (hname : slash ∉ name) : (join above name).length ≤ (join path name).length := by
  obtain ⟨behind, hbehind, rfl⟩ := exists_append_of_parent? h
  have short := length_join_le above hname
  have long := length_le_join (above ++ behind) hname
  have := List.length_pos_iff.2 hbehind
  rw [List.length_append] at long
  omega

end Parent

end Path

/-! ## Where a parent leads -/

namespace FileSystem

variable {fs : FileSystem} {path above name : Path} {trail : Trail}

theorem leads_of_directory? {tree : FileTree} (h : fs.directory? path = some tree) :
    ∃ trail, fs.trace path = .ok trail ∧ trail.node fs.root = tree ∧ fs.Leads path trail := by
  obtain ⟨trail, htrace, hnode⟩ := lookUp_eq_ok_iff.1 (lookUp_of_directory? h)
  have directory := isDirectory_of_directory? h
  exact ⟨trail, htrace, hnode, leads_of_trace htrace (hnode ▸ directory)⟩

/-- A walk that ends at a directory goes through directories. -/
theorem exists_walk_of_append {absolute : Bool} {names rest : List Path}
    (h : fs.walk absolute (names ++ rest) = .ok trail)
    (directory : (trail.node fs.root).isDirectory) :
    ∃ trail', fs.walk absolute names = .ok trail' ∧ (trail'.node fs.root).isDirectory ∧
      rest.foldlM (step fs.root) trail' = .ok trail := by
  rw [walk, ← List.append_assoc, List.foldlM_append] at h
  obtain ⟨trail', htrail', hrest⟩ := bind_eq_ok_iff.1 h
  exact ⟨trail', htrail', isDirectory_of_foldlM hrest directory, hrest⟩

/-- The path without its last part leads to a directory, too. -/
theorem Leads.parent (h : fs.Leads path trail) (habove : Path.parent? path = some above) :
    ∃ trail', fs.Leads above trail' := by
  obtain ⟨rest, hrest⟩ := List.dropLast_prefix (Path.names path)
  obtain ⟨trail', htrail', directory, -⟩ := exists_walk_of_append (hrest ▸ h.followed) h.isDirectory
  refine ⟨trail', ?_, ?_, directory⟩
  · exact fun hzero => h.no_zero (Path.mem_of_mem_parent habove hzero)
  · rw [Path.names_parent habove, Path.isAbsolute_parent habove]
    exact htrail'

/-- A name below a directory leads to a file exactly if the directory has that file. -/
theorem Leads.lookUp_join_iff (h : fs.Leads path trail) (wf : fs.root.WellFormed)
    (single : Path.slash ∉ name)
    (short : (Path.join path name).length ≤ longestPath) {content : List UInt8} :
    fs.lookUp (Path.join path name) = .ok (.file content) ↔
      (trail.node fs.root).child? name = some (.file content) := by
  rw [lookUp_eq_ok_iff]
  constructor
  · rintro ⟨trail', htrace, hfile⟩
    obtain ⟨-, -, -, hfollowed⟩ := trace_eq_ok_iff.1 htrace
    rw [h.foldlM_join single] at hfollowed
    have file : (trail'.node fs.root).isDirectory = false := by
      rw [hfile]
      rfl
    obtain ⟨-, child, hchild, rfl⟩ := exists_child_of_step h.linked hfollowed file
    rw [hchild]
    exact congrArg some hfile
  · intro hchild
    have wfNode := wf.at? (Trail.Linked.at?_names fs.root h.linked)
    exact ⟨_, h.trace_join (wfNode.isFileName_of_child? hchild) hchild short, rfl⟩

/-- Where a path leads, and where it leads without the last of its names, without the last two, and
so on. -/
def upwards (fs : FileSystem) (path : Path) : List (List Path) :=
  (Path.names path).inits.reverse.filterMap fun names =>
    (fs.walk (Path.isAbsolute path) names).toOption.map Trail.names

theorem inits_eq_append {α : Type} {as : List α} (h : as ≠ []) :
    as.inits = as.dropLast.inits ++ [as] := by
  obtain ⟨front, last, rfl⟩ := (List.eq_nil_or_concat as).resolve_left h
  simp [List.inits_append]

theorem upwards_congr (h : Path.names path = Path.names above)
    (habsolute : Path.isAbsolute path = Path.isAbsolute above) :
    fs.upwards path = fs.upwards above := by
  rw [upwards, upwards, h, habsolute]

/-- Above where a path leads is where it leads without its last part, unless that is the same. -/
theorem Leads.exists_upwards (h : fs.Leads path trail) :
    ∃ higher, fs.upwards path = trail.names :: higher ∧
      (Path.parent? path = none → higher = []) ∧
      ∀ above, Path.parent? path = some above → fs.upwards above = higher ∨
        higher = [] ∧ fs.upwards above = fs.upwards path := by
  by_cases hnames : Path.names path = []
  · refine ⟨[], ?_, fun _ => rfl, fun above habove => .inr ⟨rfl, ?_⟩⟩
    · have followed := h.followed
      rw [hnames] at followed
      rw [upwards, hnames]
      simp [followed, Except.toOption]
    · refine upwards_congr ?_ (Path.isAbsolute_parent habove)
      rw [Path.names_parent habove, hnames]
      rfl
  · obtain ⟨above, habove⟩ := Option.ne_none_iff_exists'.1 (mt Path.names_of_parent?_eq_none hnames)
    refine ⟨fs.upwards above, ?_, fun hnone => ?_, fun other hother => .inl ?_⟩
    · have inits : (Path.names path).inits.reverse =
          Path.names path :: (Path.names above).inits.reverse := by
        rw [Path.names_parent habove, inits_eq_append hnames, List.reverse_append]
        rfl
      rw [upwards, inits, upwards, Path.isAbsolute_parent habove, List.filterMap_cons, h.followed]
      rfl
    · cases habove.symm.trans hnone
    · cases habove.symm.trans hother
      rfl

/-- Names lead down one directory each. -/
theorem names_of_foldlM {root : FileTree} {trail trail' : Trail} {names : List Path}
    (named : ∀ name ∈ names, Path.isName name ∧ name ≠ Path.up)
    (h : names.foldlM (step root) trail = .ok trail') : trail'.names = trail.names ++ names := by
  induction names generalizing trail with
  | nil =>
    cases h
    exact (List.append_nil _).symm
  | cons name rest ih =>
    rw [List.foldlM_cons] at h
    obtain ⟨next, hnext, hrest⟩ := bind_eq_ok_iff.1 h
    obtain ⟨proper, up⟩ := named name List.mem_cons_self
    obtain ⟨-, ⟨same, -⟩ | ⟨rfl, -⟩ | ⟨-, child, -, rfl⟩⟩ := step_eq_ok hnext
    · exact absurd proper same
    · exact absurd rfl up
    · rw [ih (fun n hn => named n (List.mem_cons_of_mem _ hn)) hrest, Trail.names_cons,
        List.append_assoc, List.singleton_append]

/-- Without steps up, names are taken off the end of the place. -/
theorem Leads.exists_origin (h : fs.Leads path trail) (noUp : Path.up ∉ Path.names path) :
    ∃ origin, fs.walk (Path.isAbsolute path) [] = .ok origin ∧
      (origin.node fs.root).isDirectory ∧
      trail.names = origin.names ++ Path.names path ∧
      fs.upwards path = (Path.names path).inits.reverse.map (origin.names ++ ·) := by
  obtain ⟨origin, horigin, directory, hfollowed⟩ :=
    exists_walk_of_append (List.nil_append (Path.names path) ▸ h.followed) h.isDirectory
  have named : ∀ name ∈ Path.names path, Path.isName name ∧ name ≠ Path.up := fun name hname =>
    ⟨(List.mem_filter.1 hname).2, fun heq => noUp (heq ▸ hname)⟩
  refine ⟨origin, horigin, directory, names_of_foldlM named hfollowed, ?_⟩
  rw [upwards, ← List.filterMap_eq_map]
  refine List.filterMap_congr fun front hfront => ?_
  rw [List.mem_reverse, List.mem_inits] at hfront
  obtain ⟨rest, hrest⟩ := hfront
  rw [← hrest, List.foldlM_append] at hfollowed
  obtain ⟨trail', htrail', -⟩ := bind_eq_ok_iff.1 hfollowed
  have walked : fs.walk (Path.isAbsolute path) front = .ok trail' := by
    rw [walk, List.append_nil] at horigin
    rw [walk, List.foldlM_append, horigin]
    exact htrail'
  have down : trail'.names = origin.names ++ front :=
    names_of_foldlM (fun name hname => named name (hrest ▸ List.mem_append_left _ hname)) htrail'
  rw [walked, Function.comp_apply, ← down]
  rfl

end FileSystem

end ScenarioSuite
