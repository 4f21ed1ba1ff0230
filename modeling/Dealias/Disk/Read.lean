import Dealias.Disk.Resolve
import Dealias.Text.Utf8

/-!
# Reading from a disk

What is at the end of a path, what a directory holds, and the text of a file.  None of it changes
the disk.
-/

namespace Dealias.Disk

/-- The location and the node that a path leads to. -/
def visit (disk : Disk) (here : Location) (p : Path) : Except Fault (Location × Node) :=
  match disk.resolve here .visit p with
  | .ok (.found l node) => .ok (l, node)
  | .ok _ => .error (.system .noEntry)
  | .error fault => .error fault

/-- The location and the node under the last name of a path, be it a link. -/
def inspect (disk : Disk) (here : Location) (p : Path) : Except Fault (Location × Node) :=
  match disk.resolve here .inspect p with
  | .ok (.found l node) => .ok (l, node)
  | .ok _ => .error (.system .noEntry)
  | .error fault => .error fault

/-- The names in the directory that a path leads to. -/
def list (disk : Disk) (here : Location) (p : Path) : Except Fault (List Name) :=
  match disk.visit here p with
  | .error fault => .error fault
  | .ok (l, .directory) => .ok (disk.children l)
  | .ok _ => .error (.system .notDirectory)

/-- The text of the file that a path leads to. -/
def readText (disk : Disk) (here : Location) (p : Path) : Except Fault String :=
  match disk.visit here p with
  | .error fault => .error fault
  | .ok (_, .file id) =>
    match Text.ofBytes? (disk.file id).content with
    | some text => .ok text
    | none => .error .notText
  | .ok _ => .error (.system .isDirectory)

/-- Only a path within the limit leads anywhere. -/
theorem length_lt_of_visit {disk : Disk} {here : Location} {p : Path} {found : Location × Node}
    (h : disk.visit here p = .ok found) : p.bytes.length < pathLimit := by
  refine Nat.lt_of_not_le fun hlong => ?_
  unfold visit resolve at h
  grind

end Dealias.Disk
