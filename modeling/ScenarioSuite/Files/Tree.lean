import ScenarioSuite.Files.Path

/-!
# File trees

A file tree holds files and directories; a directory is a list of entries with names. A path is
looked up from the root or from the working directory.

## Main definitions

* `FileTree`: a file, or a directory with its entries.
* `FileSystem`: a tree and a working directory.
* `FileSystem.lookUp`, `FileSystem.readText`, `FileSystem.isFile`, `FileSystem.directory?`.
* `FileError`: why a file or a directory cannot be read.
-/

namespace ScenarioSuite

/-- A file, or a directory with its entries by name. The entries of a directory that cannot be
listed are there all the same. -/
inductive FileTree where
  | file (content : List UInt8)
  | directory (entries : List (Path × FileTree)) (listed : Bool := true)

instance : Inhabited FileTree := ⟨.directory []⟩

namespace FileTree

/-- The entry of a name. -/
def child? (name : Path) : FileTree → Option FileTree
  | .file _ => none
  | .directory entries _ => entries.lookup name

/-- Whether this is a directory. -/
def isDirectory : FileTree → Bool
  | .file _ => false
  | .directory _ _ => true

/-- The tree with a node at a path. Directories are made on the way. -/
def insert : FileTree → List Path → FileTree → FileTree
  | _, [], node => node
  | tree, name :: rest, node =>
    let (entries, listed) := match tree with
      | .directory entries listed => (entries, listed)
      | .file _ => ([], true)
    let below := (entries.lookup name).getD (.directory [])
    .directory ((name, below.insert rest node) :: entries.filter (·.1 != name)) listed

end FileTree

/-- Why a file or a directory cannot be read. -/
inductive FileError where
  | notFound
  | denied
  | notDirectory
  | isDirectory
  | nameTooLong
  | zeroInName
  | notText
deriving Repr, DecidableEq

/-- The error in words. -/
def FileError.message : FileError → String
  | .notFound => "No such file or directory (os error 2)"
  | .denied => "Permission denied (os error 13)"
  | .notDirectory => "Not a directory (os error 20)"
  | .isDirectory => "Is a directory (os error 21)"
  | .nameTooLong => "File name too long (os error 36)"
  | .zeroInName => "file name contained an unexpected NUL byte"
  | .notText => "stream did not contain valid UTF-8"

/-- A tree and the directory that relative paths begin at. -/
structure FileSystem where
  root : FileTree
  current : List Path

namespace FileSystem

/-- The longest name that a file can have, in bytes. -/
def longestName : Nat := 255

/-- The longest path that is looked up, in bytes. -/
def longestPath : Nat := 4095

/-- Follows the pieces of a path from a node, with the directories above it at hand. -/
def follow : List Path → List FileTree → FileTree → Except FileError FileTree
  | [], _, node => .ok node
  | piece :: rest, above, node =>
    if !node.isDirectory then .error .notDirectory
    else if !Path.isName piece then follow rest above node
    else if piece == Path.up then
      match above with
      | [] => follow rest [] node
      | parent :: above => follow rest above parent
    else if longestName < piece.length then .error .nameTooLong
    else match node.child? piece with
      | none => .error .notFound
      | some child => follow rest (node :: above) child

/-- What a path leads to. No path holds the byte zero. -/
def lookUp (fs : FileSystem) (path : Path) : Except FileError FileTree :=
  if path.contains 0 then .error .zeroInName
  else if path.isEmpty then .error .notFound
  else if longestPath < path.length then .error .nameTooLong
  else if Path.isAbsolute path then follow (Path.pieces path) [] fs.root
  else follow (fs.current ++ Path.pieces path) [] fs.root

/-- Whether a path leads to a file. -/
def isFile (fs : FileSystem) (path : Path) : Bool :=
  match fs.lookUp path with
  | .ok (.file _) => true
  | _ => false

/-- The directory that a path leads to. -/
def directory? (fs : FileSystem) (path : Path) : Option FileTree :=
  match fs.lookUp path with
  | .ok (.directory entries listed) => some (.directory entries listed)
  | _ => none

/-- The text that bytes encode. -/
def textOf (content : List UInt8) : Except FileError String :=
  match Text.Utf8.decode content with
  | .ok text => .ok text
  | .error _ => .error .notText

/-- The text of the file that a path leads to. -/
def readText (fs : FileSystem) (path : Path) : Except FileError String := do
  match ← fs.lookUp path with
  | .file content => textOf content
  | .directory _ _ => .error .isDirectory

end FileSystem

end ScenarioSuite
