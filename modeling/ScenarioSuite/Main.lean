import ScenarioSuite.CommandLine.Output
import Std.Time.DateTime.Timestamp

/-!
# The program

Looks up the files that a command line speaks of, does what it asks for, and prints the output.
-/

namespace ScenarioSuite

/-- The names of the entries of a directory, if they can be listed. -/
def entryNames (path : Path) : IO (Option (List Path)) := do
  try
    let entries ← ((← IO.currentDir) / Path.display path).readDir
    return some (entries.toList.map fun entry => Text.Utf8.encode entry.fileName)
  catch _ => return none

/-- The file or the directory at a path; what is below a directory is read to a depth. -/
def readTree (depth : Nat) (path : Path) : IO (Option FileTree) := do
  match ← entryNames path with
  | none =>
    if ← ((← IO.currentDir) / Path.display path).isDir then return some (.directory [] false)
    try
      return some (.file (← IO.FS.readBinFile (Path.display path)).toList)
    catch _ => return none
  | some names =>
    match depth with
    | 0 => return some (.directory [])
    | depth + 1 =>
      names.foldlM (fun tree name => do
        match ← readTree depth (Path.join path name) with
        | some below => return tree.map (·.insert [name] below)
        | none => return tree) (some (.directory []))

/-- The names that lead from the root to a path. A step upwards takes a name away. -/
def namesTo (current : List Path) (path : Path) : List Path :=
  (Path.pieces path).foldl (fun names piece =>
    if !Path.isName piece then names
    else if piece == Path.up then names.dropLast
    else names ++ [piece]) (if Path.isAbsolute path then [] else current)

/-- Adds what is at a path; what is below a directory is read to a depth. -/
def add (depth : Nat) (fs : FileSystem) (path : Path) : IO FileSystem := do
  match ← readTree depth path with
  | some tree => return { fs with root := fs.root.insert (namesTo fs.current path) tree }
  | none => return fs

/-- Adds what is at a path, if nothing is known of it. -/
def addNew (fs : FileSystem) (path : Path) : IO FileSystem :=
  if path.isEmpty || (fs.lookUp path) matches .ok _ then return fs else add 0 fs path

/-- Adds a file and the directories on the way to it. -/
def addFile (fs : FileSystem) (path : Path) : IO FileSystem :=
  let pieces := Path.pieces path
  (List.range (pieces.length + 1)).foldlM
    (fun fs n => addNew fs ([Path.slash].intercalate (pieces.take n))) fs

/-- How deep the directory of a suite is read. -/
def suiteDepth : Nat := 100

/-- Adds the directory of a suite. -/
def addSuite (fs : FileSystem) (directory : Path) : IO FileSystem := do
  add suiteDepth (← addFile fs directory) directory

/-- Adds the files of a name in a directory and in those above it. -/
def addUpwards (name : Path) : Nat → FileSystem → Path → IO FileSystem
  | 0, fs, _ => return fs
  | depth + 1, fs, directory => do
    let fs ← addFile fs (Path.join directory name)
    match Path.parent? directory with
    | some parent => addUpwards name depth fs parent
    | none => return fs

/-- The files that an invocation speaks of. -/
def survey (fs : FileSystem) : CommandLine.Invocation → IO FileSystem
  | .list directory configFile => do
    configFile.toList.foldlM addFile (← addSuite fs directory)
  | .run a => do
    let files := a.configFile.toList ++ a.environmentFile.toList
    let fs ← files.foldlM addFile (← addSuite fs a.directory)
    match CommandLine.loadConfig fs a.configFile with
    | .ok config => addUpwards config.environmentFile Environments.searchDepth fs a.directory
    | .error _ => return fs

/-- The present point in time. -/
def now : IO Instant :=
  return ⟨(← Std.Time.Timestamp.now).toMillisecondsSinceUnixEpoch.val⟩

end ScenarioSuite

open ScenarioSuite in
/-- Does what the command line asks for. -/
def main (arguments : List String) : IO UInt32 := do
  let current := (Path.pieces (Text.Utf8.encode (← IO.currentDir).toString)).filter (!·.isEmpty)
  let empty : FileSystem := ⟨(FileTree.directory []).insert current (.directory []), current⟩
  let fs ← match CommandLine.Invocation.parse arguments with
    | .ok invocation => survey empty invocation
    | .error _ => pure empty
  let startedAt ← now
  let (outcome, _) := CommandLine.execute fs .unconnected () arguments
  let colored := (← IO.getEnv "NO_COLOR").isNone && (← (← IO.getStdout).isTty)
  let output := outcome.output startedAt (← now) colored
  IO.print output.out
  IO.eprint output.err
  return output.status.toUInt32
