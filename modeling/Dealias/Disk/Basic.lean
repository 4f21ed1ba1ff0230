import Dealias.Disk.Name
import Dealias.Table

/-!
# Disks

A disk has nodes at locations: directories, links with the path that they stand for, and files.  A
file's content is kept apart from its place, under a number, so one file can be at several places.
The top is always a directory.

`Disk.look` is what can be seen at a location.  Numbers of files do not show in it.
-/

namespace Dealias

namespace Disk

/-- What is at a location. -/
inductive Node
  | directory
  | file (id : Nat)
  | link (target : Path)
  deriving DecidableEq

/-- Is it a link? -/
def Node.isLink : Node → Bool
  | .link _ => true
  | .directory | .file _ => false

/-- A file, apart from where it is. -/
structure File where
  content : List UInt8
  /-- The permission bits. -/
  mode : Nat
  /-- Has it been written to since the disk was last settled? -/
  written : Bool
  deriving DecidableEq

/-- What can be seen at a location. -/
inductive Look
  | directory
  | file (content : List UInt8) (mode : Nat) (written : Bool)
  | link (target : Path)
  deriving DecidableEq

end Disk

/-- Nodes at locations, and the files that they refer to. -/
structure Disk where
  nodes : Table Disk.Location Disk.Node
  files : Table Nat Disk.File

namespace Disk

/-- The disk with nothing on it. -/
def empty : Disk := ⟨.empty, .empty⟩

/-- The node at a location. -/
def node? (disk : Disk) (l : Location) : Option Node :=
  if l = [] then some .directory else disk.nodes.get? l

/-- The file with a number.  A number that is not in use stands for an empty file. -/
def file (disk : Disk) (id : Nat) : File :=
  (disk.files.get? id).getD ⟨[], 0o644, false⟩

/-- What can be seen at a location. -/
def look (disk : Disk) (l : Location) : Option Look :=
  (disk.node? l).map fun
    | .directory => .directory
    | .file id => let f := disk.file id; .file f.content f.mode f.written
    | .link target => .link target

/-- The disk with a node at a location. -/
def setNode (disk : Disk) (l : Location) (node : Node) : Disk :=
  { disk with nodes := disk.nodes.set l node }

/-- The disk with other content and permissions for a file. -/
def setFile (disk : Disk) (id : Nat) (f : File) : Disk :=
  { disk with files := disk.files.set id f }

/-- A number that no file has. -/
def freshId (disk : Disk) : Nat :=
  disk.files.keys.foldl (fun n id => max n (id + 1)) 0

/-- The disk with a new file at a location. -/
def addFile (disk : Disk) (l : Location) (f : File) : Disk :=
  (disk.setFile disk.freshId f).setNode l (.file disk.freshId)

/-- The disk with a file's content overwritten. -/
def writeFile (disk : Disk) (id : Nat) (content : List UInt8) : Disk :=
  disk.setFile id { disk.file id with content := content, written := true }

/-- The disk with other permissions for a file. -/
def setMode (disk : Disk) (id : Nat) (mode : Nat) : Disk :=
  disk.setFile id { disk.file id with mode := mode }

/-- The names in a directory, in the order of their bytes. -/
def children (disk : Disk) (directory : Location) : List Name :=
  let names := disk.nodes.keys.filterMap fun l =>
    if l.dropLast = directory then l.getLast? else none
  names.mergeSort Name.le

end Disk

end Dealias
