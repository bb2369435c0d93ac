import ScenarioSuite.Files.Tree
import ScenarioSuite.Text.Fold

/-!
# Discovery of scenario files

The scenarios of a suite are the files of a directory and of those below it whose name has one of
three extensions. Names that begin with a dot are passed over, and so are names that read like one
on a list. Each directory is taken in the order of the names of its entries, one that is a directory
itself with all that is below it in its place. What is too deep for its path to be looked up is not
seen as a directory.

## Main definitions

* `Found`: what is found below a directory.
* `scenarioFiles`: the scenario files of a directory in order.
-/

namespace ScenarioSuite.Suite

/-- What is found below a directory: the names on the way to it. -/
structure Found where
  names : List Path
deriving DecidableEq

namespace Found

/-- The same file, seen from one directory higher. -/
def below (f : Found) (name : Path) : Found :=
  { f with names := name :: f.names }

/-- The path of the file, from that of the directory. -/
def path (f : Found) (root : Path) : Path :=
  f.names.foldl Path.join root

end Found

/-- The extensions of scenario files. -/
def extensions : List String := ["yaml", "yml", "json"]

/-- Whether a name is that of a scenario file. -/
def isScenarioName (name : Path) : Bool :=
  match Path.extension? name with
  | some extension =>
    match Text.Utf8.decode extension with
    | .ok text => extensions.any (Text.sameFold text)
    | .error _ => false
  | none => false

/-- Whether a name is passed over. What is compared is how the name is shown. -/
def isIgnored (ignored : List String) (name : Path) : Bool :=
  let text := Path.display name
  text.toList.head? == some '.' || ignored.contains text

/-- Whether a node is seen as a directory at a path. -/
def isDirectoryAt (path : Path) (node : FileTree) : Bool :=
  decide (path.length ≤ FileSystem.longestPath) && node.isDirectory

/-- Entries in the order of their names. -/
def inOrder {α : Type} (entries : List (Path × α)) : List (Path × α) :=
  entries.mergeSort fun a b => a.1 ≤ b.1

mutual

/-- The scenario files of a directory in order, or the path of the first directory that cannot be
listed. -/
def scenarioFiles (ignored : List String) (directory : Path) :
    FileTree → Except Path (List Found)
  | .file _ => .ok []
  | .directory entries listed =>
    if listed then do
      let found ← (inOrder (scenarioEntries ignored directory entries)).mapM (·.2)
      return found.flatten
    else .error directory

/-- The names of entries with the scenario files that each of them gives. -/
def scenarioEntries (ignored : List String) (directory : Path) :
    List (Path × FileTree) → List (Path × Except Path (List Found))
  | [] => []
  | (name, node) :: rest =>
    let path := Path.join directory name
    (name,
      if isIgnored ignored name then .ok []
      else if isDirectoryAt path node then
        (scenarioFiles ignored path node).map fun found => found.map (·.below name)
      else .ok (if isScenarioName name then [⟨[name]⟩] else [])) ::
      scenarioEntries ignored directory rest

end

end ScenarioSuite.Suite
