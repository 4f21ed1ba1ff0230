import Dealias.Run.Event
import Dealias.Text.Indent
import Dealias.Version

/-!
# The log

Every event that is worth telling has a record: how important it is, which part of the program
tells it, and a sentence.  Requests to a store are silent; what came of them is told.
-/

namespace Dealias.Log

/-- How important a record is, the most important first. -/
inductive Level
  | error | warn | info | debug | trace
  deriving DecidableEq, Repr

namespace Level

/-- All levels, the most important first. -/
def all : List Level := [error, warn, info, debug, trace]

/-- The place of a level in the order, from one. -/
def rank : Level → Nat
  | error => 1
  | warn => 2
  | info => 3
  | debug => 4
  | trace => 5

/-- The name of a level. -/
def name : Level → String
  | error => "ERROR"
  | warn => "WARN"
  | info => "INFO"
  | debug => "DEBUG"
  | trace => "TRACE"

end Level

/-- The parts of the program that tell something. -/
inductive Source
  | program | walk | run | file | progress
  deriving DecidableEq, Repr

/-- The name under which a part of the program is selected. -/
def Source.target : Source → String
  | program => "fix_paths::app"
  | walk => "fix_paths_infra::filesystem"
  | run => "fix_paths_usecase::orchestrator"
  | file => "fix_paths_usecase::fixer"
  | progress => "fix_paths::presentation"

/-- One thing told. -/
structure Record where
  level : Level
  source : Source
  message : String
  deriving DecidableEq, Repr

/-- The record of an event, if it has one. -/
def record? : Event → Option Record
  | .started root literal dryRun =>
    some ⟨.info, .program, s!"{Version.name} v{Version.number} · root={root.display} · " ++
      s!"pattern={literal} · dry_run={dryRun}"⟩
  | .crawl directory depth =>
    some ⟨.trace, .walk, s!"crawling {directory.display} at depth {depth.display}"⟩
  | .found count root => some ⟨.debug, .walk, s!"found {count} files under {root.display}"⟩
  | .selected chosen total root suffix =>
    some ⟨.info, .run, s!"{chosen} of {total} files under {root.display} end with {suffix}"⟩
  | .rewrote occurrences path dryRun =>
    let verb := if dryRun then "would rewrite" else "rewrote"
    some ⟨.debug, .file, s!"{verb} {occurrences} reference(s) in {path.display}"⟩
  | .file path occurrences =>
    if occurrences = 0 then some ⟨.debug, .progress, s!"{path.display}: nothing to fix"⟩
    else some ⟨.info, .progress, s!"{path.display}: {occurrences} alias reference(s)"⟩
  | .complete scanned changed =>
    some ⟨.debug, .progress, s!"done: {changed} of {scanned} candidate file(s) changed"⟩
  | .total occurrences => some ⟨.debug, .run, s!"{occurrences} reference(s) rewritten"⟩
  | .walk _ => none
  | .read _ => none
  | .write _ _ => none

/-- The records of events, in their order. -/
def records (events : List Event) : List Record :=
  events.filterMap record?

/-- A record as it stands in the log: the level in square brackets and the message, whose later
lines are moved to the right. -/
def Record.line (r : Record) : String :=
  let name := r.level.name
  "[" ++ name.pushn ' ' (5 - name.length) ++ "] " ++ Text.indentLater "    " r.message ++ "\n"

end Dealias.Log
