import AdminGrid.Text.Split

/-!
# Paths and files

Files lie in folders, each with its text and the time of its last change.  An operation on files
succeeds or fails, and one that fails has no effect; which of the operations to come will fail is a
part of the disk, so that every outcome can be followed.
-/

namespace AdminGrid

/-! ## Paths

A path is what it starts from and the names that follow.  Its normal form has no empty names and no
`.` among them; `..` stays, because where it leads depends on the files.  A path that starts from a
root is taken as it is, wherever it is joined to. -/

/-- What a path starts from, empty for a relative path, and the names on it. -/
structure Path where
  root : String
  names : List String
  deriving DecidableEq

namespace Path

/-- The root of a path with a number of slashes in front; exactly two are kept. -/
def rootOf (slashes : Nat) : String :=
  if slashes = 0 then "" else if slashes = 2 then "//" else "/"

/-- The path that a text denotes. -/
def of (s : String) : Path where
  root := rootOf (s.toList.takeWhile (· == '/')).length
  names := (Text.splitOn '/' s).filter fun name => name != "" && name != "."

/-- A path as a text. -/
def text (p : Path) : String :=
  if p.root = "" && p.names.isEmpty then "." else p.root ++ "/".intercalate p.names

/-- The second path as seen from the first. -/
def join (p q : Path) : Path :=
  if q.root = "" then ⟨p.root, p.names ++ q.names⟩ else q

/-- The path to what has a name in a folder. -/
def child (folder : Path) (name : String) : Path := ⟨folder.root, folder.names ++ [name]⟩

/-- The folder that a path leads into last. -/
def parent (p : Path) : Path := ⟨p.root, p.names.dropLast⟩

/-- The last name on a path. -/
def name (p : Path) : String := p.names.getLast?.getD ""

/-- Whether the first path leads to a folder on the way of the second, or to the same place. -/
def isOnWayTo (p q : Path) : Bool := p.root = q.root && p.names.isPrefixOf q.names

end Path

/-! ## Operations on files -/

/-- A file. -/
structure File where
  path : Path
  content : String
  /-- The time of the last change, in seconds. -/
  time : Int

/-- Folders and files, and the outcomes of the operations to come. -/
structure Disk where
  folders : List Path
  files : List File
  /-- Whether the first operation to come fails, the second, and so on; all others succeed. -/
  failures : List Bool

/-- A computation on files. -/
abbrev OnDisk (α : Type) := StateM Disk α

namespace Disk

/-- No files. -/
def empty : Disk := ⟨[], [], []⟩

/-- The file at a path. -/
def find? (d : Disk) (path : Path) : Option File := d.files.find? (·.path == path)

/-- The disk with a file, in the place of another one at its path. -/
def put (d : Disk) (file : File) : Disk :=
  { d with files := d.files.filter (·.path != file.path) ++ [file] }

/-- The disk without the file at a path. -/
def remove (d : Disk) (path : Path) : Disk :=
  { d with files := d.files.filter (·.path != path) }

/-- Whether a folder is at a path. -/
def isFolder (d : Disk) (path : Path) : Bool :=
  d.folders.any path.isOnWayTo || d.files.any fun f => path.isOnWayTo f.path.parent

/-- Whether a file keeps a folder from being at a path. -/
def isBlocked (d : Disk) (path : Path) : Bool := d.files.any fun f => f.path.isOnWayTo path

/-- The files in a folder. -/
def filesIn (d : Disk) (folder : Path) : List File := d.files.filter (·.path.parent == folder)

/-- Whether the next operation succeeds. -/
def succeeds : OnDisk Bool := fun d =>
  match d.failures with
  | [] => (true, d)
  | fails :: rest => (!fails, { d with failures := rest })

end Disk

end AdminGrid
