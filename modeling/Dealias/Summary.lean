import Dealias.Entry

/-!
# Summaries

What a run reports: how many candidates it looked at, which of them it changed, in that order, and
how many references it rewrote.  A dry run reports what it would have changed.
-/

namespace Dealias

/-- What became of one candidate. -/
inductive Outcome
  | unchanged
  | rewritten (occurrences : Nat)
  deriving DecidableEq, Repr

namespace Outcome

/-- How many references were rewritten. -/
def occurrences : Outcome → Nat
  | unchanged => 0
  | rewritten n => n

/-- Was the file changed? -/
def isModified : Outcome → Bool
  | unchanged => false
  | rewritten _ => true

end Outcome

/-- The account of a run. -/
structure Summary where
  scanned : Nat
  changed : List Path
  occurrences : Nat
  dryRun : Bool
  deriving DecidableEq, Repr

namespace Summary

/-- The account before the first candidate. -/
def empty (dryRun : Bool) : Summary := ⟨0, [], 0, dryRun⟩

/-- How many candidates were changed. -/
def changedCount (s : Summary) : Nat := s.changed.length

/-- The account with one more candidate. -/
def record (s : Summary) (path : Path) (outcome : Outcome) : Summary where
  scanned := s.scanned + 1
  changed := if outcome.isModified then s.changed ++ [path] else s.changed
  occurrences := s.occurrences + outcome.occurrences
  dryRun := s.dryRun

/-- The account in one sentence. -/
def message (s : Summary) : String :=
  if s.changedCount = 0 then s!"No files modified (of {s.scanned})."
  else
    let verb := if s.dryRun then "Would fix" else "Fixed"
    let files := if s.changedCount = 1 then "file" else "files"
    s!"{verb} {s.changedCount} {files} (of {s.scanned})."

end Summary

end Dealias
