import Dealias.Disk.Read

/-!
# Overwriting in place

A file is opened and its content overwritten: through links, under all its names at once, with its
permissions kept.  A path that leads to a free name gives a new file.  A directory cannot be
overwritten, and neither can a name that is marked as a directory by a separator behind it.
-/

namespace Dealias.Disk

/-- The permissions of a new file. -/
def newMode : Nat := 0o644

/-- The disk with the content of the file that a path leads to overwritten. -/
def overwrite (disk : Disk) (here : Location) (p : Path) (content : List UInt8) :
    Except Fault Disk :=
  match disk.resolve here .create p with
  | .error fault => .error fault
  | .ok (.found _ (.file id)) => .ok (disk.writeFile id content)
  | .ok (.vacant directory name) =>
    .ok (disk.addFile (directory ++ [name]) ⟨content, newMode, true⟩)
  | .ok _ => .error (.system .isDirectory)

end Dealias.Disk
