import Dealias.Disk.Overwrite
import Dealias.Disk.Replace
import Dealias.Disk.Walk
import Dealias.Run.Basic

/-!
# Runs on a disk

How a disk is walked, read and written, in either mode, by a program whose working directory is
`here`.
-/

namespace Dealias.Disk

/-- The disk with a new text for a file, put there in the given mode. -/
def writeText (mode : WriteMode) (disk : Disk) (here : Location) (p : Path) (text : String) :
    Except Fault Disk :=
  match mode with
  | .inPlace => disk.overwrite here p (Text.bytes text)
  | .atomic =>
    let attempt := replace Replace.calm disk here p (Text.bytes text)
    match attempt.fault? with
    | none => .ok attempt.disk
    | some fault => .error fault

/-- How a disk is walked, read and written. -/
def access (here : Location) (mode : WriteMode) : Access Disk where
  walk disk root := let w := disk.walk here root; (w.events, w.result)
  read disk p := (disk.readText here p).mapError (.fileRead p)
  write disk p text := (writeText mode disk here p text).mapError (.fileWrite p)

end Dealias.Disk
