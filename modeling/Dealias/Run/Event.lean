import Dealias.Entry

/-!
# Events of a run

All that a run does or tells, in order: the requests that it makes of the walk and of the store,
what it notes on the way, and what it reports to whoever watches its progress.
-/

namespace Dealias

/-- One thing that a run does or tells. -/
inductive Event
  /-- The run begins; the root is given as an absolute path. -/
  | started (root : Path) (literal : String) (dryRun : Bool)
  /-- The entries below the root are asked for. -/
  | walk (root : Path)
  /-- A directory is about to be listed. -/
  | crawl (directory : Path) (depth : Depth)
  /-- The walk is over. -/
  | found (count : Nat) (root : Path)
  /-- The candidates among the entries are known. -/
  | selected (chosen total : Nat) (root : Path) (suffix : String)
  /-- A text is asked for. -/
  | read (path : Path)
  /-- A text is to be put back. -/
  | write (path : Path) (text : String)
  /-- The references of a file are rewritten, or would be. -/
  | rewrote (occurrences : Nat) (path : Path) (dryRun : Bool)
  /-- Progress: a file is done. -/
  | file (path : Path) (occurrences : Nat)
  /-- Progress: all files are done. -/
  | complete (scanned changed : Nat)
  /-- The run is over. -/
  | total (occurrences : Nat)
  deriving DecidableEq, Repr

/-- Is the event a request to the walk or the store? -/
def Event.isCall : Event → Bool
  | walk _ => true
  | read _ => true
  | write _ _ => true
  | _ => false

/-- Is the event a report to whoever watches the progress? -/
def Event.isProgress : Event → Bool
  | file _ _ => true
  | complete _ _ => true
  | _ => false

end Dealias
