import Dealias.Disk.Overwrite

/-!
# Laying out a disk

Making directories, files, links and further names, and taking things away again; and the listing
of all that lies below a directory.  Directories on the way to a new entry are made as needed.
-/

namespace Dealias.Disk

/-- The paths of the directories that are passed on the way to a path, and the path itself. -/
def waypoints (p : Path) : List Path :=
  let pieces := Search.parts Path.slash p.bytes
  (List.range pieces.length).map fun n => ⟨[Path.slash].intercalate (pieces.take (n + 1))⟩

/-- The disk with a directory at the end of a path, if there is none. -/
def makeDirectory (disk : Disk) (here : Location) (p : Path) : Disk :=
  match disk.resolve here .place p with
  | .ok (.vacant directory name) => disk.setNode (directory ++ [name]) .directory
  | _ => disk

/-- The disk with directories all along a path. -/
def makeDirectories (disk : Disk) (here : Location) (p : Path) : Disk :=
  (waypoints p).foldl (fun disk q => disk.makeDirectory here q) disk

/-- The disk with the directories on the way to a path. -/
def makeParents (disk : Disk) (here : Location) (p : Path) : Disk :=
  (waypoints p).dropLast.foldl (fun disk q => disk.makeDirectory here q) disk

/-- The disk with a node under a new name. -/
def putNode (disk : Disk) (here : Location) (p : Path) (node : Node) : Except Fault Disk :=
  let disk := disk.makeParents here p
  match disk.resolve here .place p with
  | .error fault => .error fault
  | .ok (.vacant directory name) => .ok (disk.setNode (directory ++ [name]) node)
  | .ok _ => .error (.system .fileExists)

/-- Something to be laid out at a path. -/
inductive Item
  | directory
  | file (content : List UInt8) (mode : Nat)
  | link (target : Path)
  /-- A further name for the file at a path. -/
  | nameFor (existing : Path)
  deriving DecidableEq

/-- The disk with an item at a path.  A file that is there already gets the content and the
permissions of the item. -/
def put (disk : Disk) (here : Location) (p : Path) : Item → Except Fault Disk
  | .directory => .ok (disk.makeDirectories here p)
  | .link target => disk.putNode here p (.link target)
  | .nameFor existing => do
    let (_, node) ← disk.inspect here existing
    disk.putNode here p node
  | .file content mode => do
    let disk ← (disk.makeParents here p).overwrite here p content
    match ← disk.visit here p with
    | (_, .file id) => return disk.setMode id mode
    | _ => return disk

/-- The disk with several items, laid out in their order. -/
def putAll (disk : Disk) (here : Location) : List (Path × Item) → Except Fault Disk
  | [] => .ok disk
  | (p, item) :: rest => do
    let disk ← disk.put here p item
    disk.putAll here rest

/-- The disk without what is at a path and all below it. -/
def remove (disk : Disk) (here : Location) (p : Path) : Except Fault Disk := do
  let (l, _) ← disk.inspect here p
  let below := disk.nodes.keys.filter fun k => l.isPrefixOf k
  return { disk with nodes := below.foldl Table.erase disk.nodes }

/-- The disk with no file counted as written. -/
def settle (disk : Disk) : Disk :=
  let ids := disk.files.keys
  ids.foldl (fun disk id => disk.setFile id { disk.file id with written := false }) disk

/-- All that lies below a directory, by its path from there, in the order of the paths' bytes. -/
def listing (disk : Disk) (directory : Location) : List (Path × Look) :=
  let rows := disk.nodes.keys.filterMap fun l =>
    if directory.isPrefixOf l ∧ l ≠ directory then
      (disk.look l).map fun look =>
        ((⟨[Path.slash].intercalate ((l.drop directory.length).map Name.bytes)⟩ : Path), look)
    else none
  rows.mergeSort fun a b => decide (a.1.bytes ≤ b.1.bytes)

end Dealias.Disk
