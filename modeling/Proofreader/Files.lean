import Proofreader.Path

/-!
# Files

The program sees the file system through a `Disk`: what can be read at a path, and which paths
refuse to be written.  It reads all it needs before it writes, so the disk of the beginning is
enough; the writes are part of the result.

`FileTree` is a disk held as data: files with their content, and directories, below one working
directory.  Looking up a path walks its parts, so `a/../b` needs `a` to be a directory, and nothing
can be below a file.
-/

set_option autoImplicit false

namespace Proofreader

/-! ## Disks -/

/-- Why a file cannot be read or written. -/
inductive AccessFault where
  /-- There is nothing at the path. -/
  | notFound
  /-- There is a directory at the path. -/
  | isDirectory
  /-- The path goes through something that is no directory. -/
  | notDirectory
  /-- The file does not hold text. -/
  | notText
  /-- The system refuses for another reason. -/
  | refused (reason : String)
deriving Repr, DecidableEq

/-- The text that tells a fault. -/
def AccessFault.message : AccessFault → String
  | notFound => "No such file or directory (os error 2)"
  | isDirectory => "Is a directory (os error 21)"
  | notDirectory => "Not a directory (os error 20)"
  | notText => "stream did not contain valid UTF-8"
  | refused reason => reason

/-- What the program sees of the file system. -/
structure Disk where
  /-- Whether there is something at a path. -/
  has : Path → Bool
  /-- The text of the file at a path. -/
  read : Path → Except AccessFault String
  /-- Why a path refuses to be written, if it does. -/
  writeFault : Path → Option AccessFault

/-! ## Trees -/

/-- What is in a file. -/
inductive Content where
  /-- Text. -/
  | text (s : String)
  /-- Bytes that are not text. -/
  | bytes (b : Bytes)
deriving Repr, DecidableEq

/-- What can be at a path. -/
inductive Entry where
  /-- A file. -/
  | file (content : Content)
  /-- A directory. -/
  | directory
deriving Repr, DecidableEq

/-- A place in the tree: the names on the way from the working directory. -/
abbrev Location := List Bytes

/-- The files and directories below the working directory. -/
structure FileTree where
  /-- What is where; a directory need not be listed if something below it is. -/
  entries : List (Location × Entry)
deriving Repr, DecidableEq

namespace FileTree

/-- What is at a location of the tree, if anything.  The directories around the working directory
are there, but nothing is known of what is in them. -/
def at? (tree : FileTree) (location : Location) : Option Entry :=
  match tree.entries.find? (·.1 == location) with
  | some (_, entry) => some entry
  | none =>
    if location.all (· == Path.parent) || tree.entries.any fun e => location.isPrefixOf e.1 then
      some .directory
    else none

/-- The location of the directory around a location. -/
def outer (location : Location) : Location :=
  if location.all (· == Path.parent) then location ++ [Path.parent] else location.dropLast

/-- Walk on from a location; every step needs a directory to start from. -/
def walk (tree : FileTree) : (parts : List Bytes) → Location → Except AccessFault Location
  | [], location => .ok location
  | part :: more, location =>
    match tree.at? location with
    | none => .error .notFound
    | some .directory =>
      if part == [] || part == Path.current then walk tree more location
      else if part == Path.parent then walk tree more (outer location)
      else walk tree more (location ++ [part])
    | some _ => .error .notDirectory

/-- The location of a path.  Absolute paths lead out of the tree. -/
def locate (tree : FileTree) (path : Path) : Except AccessFault Location :=
  match path.bytes with
  | [] => .error .notFound
  | b :: rest =>
    if b == Path.slash then .error .notFound else tree.walk (Path.partsOf (b :: rest)) []

/-- Whether there is something at a path. -/
def has (tree : FileTree) (path : Path) : Bool :=
  match tree.locate path with
  | .ok location => (tree.at? location).isSome
  | .error _ => false

/-- The text of the file at a path. -/
def read (tree : FileTree) (path : Path) : Except AccessFault String := do
  let location ← tree.locate path
  match tree.at? location with
  | none => .error .notFound
  | some .directory => .error .isDirectory
  | some (.file (.bytes _)) => .error .notText
  | some (.file (.text s)) => .ok s

/-- The entries with the entry at a location replaced, or added. -/
def putEntry (location : Location) (entry : Entry) :
    List (Location × Entry) → List (Location × Entry)
  | [] => [(location, entry)]
  | (l, e) :: rest =>
    if l = location then (l, entry) :: rest else (l, e) :: putEntry location entry rest

/-- The tree after a text was written to a path. -/
def write (tree : FileTree) (path : Path) (text : String) : Except AccessFault FileTree := do
  let location ← tree.locate path
  match tree.at? location with
  | some .directory => .error .isDirectory
  | some (.file _) => .ok ⟨putEntry location (.file (.text text)) tree.entries⟩
  | none =>
    if tree.at? location.dropLast == some .directory then
      .ok ⟨putEntry location (.file (.text text)) tree.entries⟩
    else .error .notFound

/-- Why a path cannot be written, if it cannot. -/
def writeFault (tree : FileTree) (path : Path) : Option AccessFault :=
  match tree.write path "" with
  | .ok _ => none
  | .error fault => some fault

/-- The tree after several texts were written; what cannot be written changes nothing. -/
def writeAll (tree : FileTree) : List (Path × String) → FileTree
  | [] => tree
  | (path, text) :: more =>
    match tree.write path text with
    | .ok tree => tree.writeAll more
    | .error _ => tree.writeAll more

/-- The tree as a disk. -/
def disk (tree : FileTree) : Disk := ⟨tree.has, tree.read, tree.writeFault⟩

/-- The location that a path names if all its parts are directories or files. -/
def plainLocation (path : Path) : Location :=
  (Path.partsOf path.bytes).filter fun part => part != [] && part != Path.current

/-- The tree of a list of paths with what is at them. -/
def ofPaths (paths : List (Path × Entry)) : FileTree :=
  ⟨paths.map fun (path, entry) => (plainLocation path, entry)⟩

/-- The content of the file at a plain path, if there is one. -/
def content? (tree : FileTree) (path : Path) : Option Content :=
  match tree.at? (plainLocation path) with
  | some (.file content) => some content
  | _ => none

end FileTree
end Proofreader
