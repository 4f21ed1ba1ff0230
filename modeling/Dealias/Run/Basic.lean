import Dealias.Config
import Dealias.Run.Event

/-!
# A run

A run asks for the entries below its root, then takes the candidates one at a time in the order of
the walk: it reads a text, rewrites its references, and puts the text back if it changed.  The first
failure ends the run.  A dry run does all but put texts back.

Where the entries and texts come from is left open: `Access` says how a store of some kind is
walked, read and written.  A request that fails leaves the store as it was.
-/

namespace Dealias

/-- How a store is walked, read and written. -/
structure Access (σ : Type) where
  /-- The entries below a root, with what the walk notes on its way. -/
  walk : σ → Path → List Event × Except SystemError (List Entry)
  /-- The text of a file. -/
  read : σ → Path → Except SystemError String
  /-- The store with a new text for a file. -/
  write : σ → Path → String → Except SystemError σ

/-- What came of handling one file. -/
structure Fix (σ : Type) where
  events : List Event
  result : Except SystemError (σ × Outcome)

/-- What came of a run: its events, the store it left, and its summary or failure. -/
structure Run (σ : Type) where
  events : List Event
  store : σ
  result : Except Failure Summary

variable {σ : Type}

/-- Reads a file, rewrites its references, and puts it back if it has any. -/
def fixFile (access : Access σ) (pattern : Alias) (dryRun : Bool) (store : σ) (entry : Entry) :
    Fix σ :=
  match access.read store entry.path with
  | .error e => ⟨[.read entry.path], .error e⟩
  | .ok text =>
    match pattern.rewrite text entry.depth with
    | .unchanged => ⟨[.read entry.path], .ok (store, .unchanged)⟩
    | .rewritten new n =>
      if dryRun then
        ⟨[.read entry.path, .rewrote n entry.path true], .ok (store, .rewritten n)⟩
      else
        match access.write store entry.path new with
        | .error e => ⟨[.read entry.path, .write entry.path new], .error e⟩
        | .ok store' =>
          ⟨[.read entry.path, .write entry.path new, .rewrote n entry.path false],
            .ok (store', .rewritten n)⟩

/-- Handles the candidates that are left.  With `progress`, each finished file and the end are
reported. -/
def fixAll (access : Access σ) (pattern : Alias) (dryRun progress : Bool) (store : σ)
    (summary : Summary) : List Entry → Run σ
  | [] =>
    let report := if progress then [.complete summary.scanned summary.changedCount] else []
    ⟨report ++ [.total summary.occurrences], store, .ok summary⟩
  | entry :: rest =>
    let fix := fixFile access pattern dryRun store entry
    match fix.result with
    | .error e => ⟨fix.events, store, .error (.stopped (.fixing entry.path) (.system e))⟩
    | .ok (store', outcome) =>
      let report := if progress then [.file entry.path outcome.occurrences] else []
      let later :=
        fixAll access pattern dryRun progress store' (summary.record entry.path outcome) rest
      { later with events := fix.events ++ report ++ later.events }

/-- Runs over everything below the root. -/
def run (access : Access σ) (config : Config) (progress : Bool) (store : σ) : Run σ :=
  let (notes, walked) := access.walk store config.root
  match walked with
  | .error e =>
    ⟨.walk config.root :: notes, store, .error (.stopped (.scanning config.root) (.system e))⟩
  | .ok entries =>
    let candidates := config.suffix.candidates entries
    let fixed :=
      fixAll access config.pattern config.dryRun progress store (.empty config.dryRun) candidates
    let selection :=
      .selected candidates.length entries.length config.root config.suffix.text
    { fixed with events := .walk config.root :: notes ++ selection :: fixed.events }

end Dealias
