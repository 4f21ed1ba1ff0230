import Dealias.Disk.Archive
import Dealias.Program

/-!
# Command line

The tree comes in on the standard input, as an archive, and is seen from its top.  The summary goes
to the standard output, with the changed tree behind it; the log and the report of a failure go to
the standard error.
-/

namespace Dealias.Program

/-- The tree of the standard input, if it holds one.  Arguments that are not followed need none. -/
def readDisk (arguments : List (List UInt8)) : IO (Option Disk) := do
  match CommandLine.parse arguments with
  | .error _ => return some .empty
  | .ok _ => return Disk.Archive.decode? (← (← IO.getStdin).readBinToEnd).data.toList

/-- Writes what a program leaves behind, and gives its exit status. -/
def conclude (ending : Program.Ending) : IO UInt32 := do
  (← IO.getStderr).putStr ending.messages
  let stdout ← IO.getStdout
  stdout.write ⟨ending.output.toArray⟩
  if ending.stop?.isNone then
    stdout.write ⟨(Disk.Archive.encode ending.disk).toArray⟩
  stdout.flush
  return UInt32.ofNat ending.status

end Dealias.Program

open Dealias in
/-- Runs the program. -/
def main (arguments : List String) : IO UInt32 := do
  let arguments := arguments.map Text.bytes
  match ← Program.readDisk arguments with
  | none =>
    (← IO.getStderr).putStr "error: the standard input holds no tree\n"
    return 2
  | some disk =>
    let setting := (← IO.getEnv "RUST_LOG").map Text.bytes
    Program.conclude (Program.execute arguments setting [] .unlimited disk)
