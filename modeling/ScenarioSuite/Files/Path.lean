import ScenarioSuite.Text.Utf8

/-!
# Paths

A path is a sequence of bytes, which need not encode a text. Its parts are parted by slashes. Parts
that are empty or a single dot do not count, except for a dot that begins a relative path.

## Main definitions

* `Path`: the bytes of a path, or of a name in it.
* `Path.display`: how a path is shown.
* `Path.parts`: the parts that count.
* `Path.join`, `Path.parent?`, `Path.fileName?`, `Path.stem`, `Path.extension?`.
-/

namespace ScenarioSuite

/-- A path, or a name in it: bytes, which need not encode a text. -/
abbrev Path := List UInt8

/-- A text is taken for the path that its bytes are. -/
instance : Coe String Path := ⟨Text.Utf8.encode⟩

namespace Path

/-- The byte that parts a path. -/
def slash : UInt8 := 0x2F

/-- The byte in front of an extension. -/
def dot : UInt8 := 0x2E

/-- The piece that stays in a directory. -/
def here : Path := [dot]

/-- The piece that leads to the directory above. -/
def up : Path := [dot, dot]

/-- How a path is shown: as a text with a mark for what is none. -/
def display (path : Path) : String :=
  Text.Utf8.decodeLossy path

/-- Whether a path begins at the root. -/
def isAbsolute (path : Path) : Bool :=
  path.head? == some slash

/-- Splits bytes at slashes, with the bytes since the last one in front. -/
def splitSlashes (run : Path) : Path → List Path
  | [] => [run]
  | b :: rest =>
    if b = slash then run :: splitSlashes [] rest else splitSlashes (run ++ [b]) rest

/-- What stands between the slashes. -/
def pieces (path : Path) : List Path :=
  splitSlashes [] path

/-- Whether a piece of a path names something. -/
def isName (piece : Path) : Bool :=
  !piece.isEmpty && piece != here

/-- The parts that count. -/
def parts (path : Path) : List Path :=
  match pieces path with
  | [] => []
  | first :: rest => (if first.isEmpty then [] else [first]) ++ rest.filter isName

/-- The path of a name below a directory. A name that is itself an absolute path stays. -/
def join (directory name : Path) : Path :=
  if isAbsolute name || directory.isEmpty then name
  else if directory.getLast? == some slash then directory ++ name
  else directory ++ slash :: name

/-- The pieces up to the last one that names something. -/
def upToName (pieces : List Path) : List Path :=
  (pieces.reverse.dropWhile fun piece => !isName piece).reverse

/-- The path without its last part, and without what does not count in front of that. -/
def parent? (path : Path) : Option Path :=
  match pieces path with
  | [] => none
  | first :: rest =>
    match upToName rest with
    | [] => if first.isEmpty then none else some []
    | named =>
      match upToName named.dropLast with
      | [] => some (if first.isEmpty then [slash] else first)
      | above => some ([slash].intercalate (first :: above))

/-- The last part, if it names something. -/
def fileName? (path : Path) : Option Path :=
  match (parts path).getLast? with
  | some part => if part == here || part == up then none else some part
  | none => none

/-- A name cut at its last dot. A dot in front belongs to the name. -/
def cutExtension (name : Path) : Path × Option Path :=
  let behind := name.reverse.takeWhile (· != dot)
  let front := (name.reverse.drop (behind.length + 1)).reverse
  if front.isEmpty then (name, none)
  else (front, some behind.reverse)

/-- A name without its extension. -/
def stem (name : Path) : Path :=
  (cutExtension name).1

/-- The extension of a name: what stands behind the last dot. -/
def extension? (name : Path) : Option Path :=
  (cutExtension name).2

end Path

end ScenarioSuite
