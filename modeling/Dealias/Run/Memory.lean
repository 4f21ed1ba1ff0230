import Dealias.Run.Basic
import Dealias.Table

/-!
# Runs in memory

A store that is a table of texts, and a walk that finds the same entries every time.  Faults can be
laid on the walk and on single paths.  A file that is not in the table cannot be read.
-/

namespace Dealias.Memory

/-- The texts of the files. -/
abbrev Store := Table Path String

/-- The files with their texts, in the order of the paths' bytes. -/
def Store.sorted (store : Store) : List (Path × String) :=
  store.rows.mergeSort fun a b => decide (a.1.bytes ≤ b.1.bytes)

/-- The faults that are laid on a run. -/
structure Faults where
  walk : Option Fault := none
  read : Path → Option Fault := fun _ => none
  write : Path → Option Fault := fun _ => none

/-- How the store in memory is walked, read and written. -/
def access (entries : List Entry) (faults : Faults) : Access Store where
  walk _ root :=
    ([], match faults.walk with
      | some fault => .error (.directoryRead root fault)
      | none => .ok entries)
  read store path :=
    match faults.read path, store.get? path with
    | some fault, _ => .error (.fileRead path fault)
    | none, some text => .ok text
    | none, none => .error (.fileRead path (.ofKind .notFound))
  write store path text :=
    match faults.write path with
    | some fault => .error (.fileWrite path fault)
    | none => .ok (store.set path text)

end Dealias.Memory
