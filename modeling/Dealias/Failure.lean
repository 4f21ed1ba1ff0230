import Dealias.Fault

/-!
# Failures of a run

Everything that can stop a run, by the layer that met it: a refused setting, a fault of the system
while a file, a directory or the summary was handled, a command-line value that cannot be used.
Around such a leaf stand wrappers that tell what was going on.

`links` is the chain of causes behind a failure, outermost first; a layer's failure is followed by
the layer's own error, so a text may appear twice, once with the layer's name in front, and a fault
that was made of another error is followed by what this has behind it.  `system?` looks through the
wrappers for the fault of the system.
-/

namespace Dealias

/-- Why a pattern is refused. -/
inductive PatternFlaw
  | emptyCall
  | emptyMarker
  | dottedMarker
  /-- The compiled pattern would be larger than `limit` bytes. -/
  | tooLarge (limit : Nat)
  /-- A flaw in someone else's words, with what caused it. -/
  | stated (details : String) (cause : Option Source)
  deriving DecidableEq, Repr

/-- The words for a flaw. -/
def PatternFlaw.details : PatternFlaw → String
  | emptyCall => "call prefix must not be empty"
  | emptyMarker => "alias marker must not be empty"
  | dottedMarker => "alias marker must not start with '.'"
  | tooLarge limit => s!"Compiled regex exceeds size limit of {limit} bytes."
  | stated details _ => details

/-- A refused setting. -/
inductive ConfigError
  | invalidConfiguration (reason : String)
  | invalidPattern (literal : String) (flaw : PatternFlaw)
  deriving DecidableEq, Repr

/-- The text of a refused setting. -/
def ConfigError.message : ConfigError → String
  | invalidConfiguration reason => s!"Invalid configuration: {reason}"
  | invalidPattern literal flaw => s!"Invalid alias pattern '{literal}': {flaw.details}"

/-- A command-line value that was understood but cannot be used. -/
structure UsageError where
  flag : String
  value : String
  reason : String
  deriving DecidableEq, Repr

/-- The text of an unusable value. -/
def UsageError.message (error : UsageError) : String :=
  s!"Invalid CLI value: {error.flag} = {error.value} - {error.reason}"

/-- What a run was doing when it stopped. -/
inductive Stage
  | scanning (root : Path)
  | fixing (path : Path)
  deriving DecidableEq, Repr

/-- The text of a stage that failed. -/
def Stage.message : Stage → String
  | scanning root => s!"Failed to scan '{root.display}'"
  | fixing path => s!"Failed to fix '{path.display}'"

/-- A failure, wrapped in what was going on. -/
inductive Failure
  | context (note : String) (cause : Failure)
  | stopped (stage : Stage) (cause : Failure)
  | config (error : ConfigError)
  | system (error : SystemError)
  | usage (error : UsageError)
  deriving DecidableEq, Repr

namespace Failure

/-- The text of a failure. -/
def message : Failure → String
  | context note cause => s!"{note}: {cause.message}"
  | stopped stage _ => s!"Application error: {stage.message}"
  | config error => s!"Domain error: {error.message}"
  | system error => s!"Infrastructure error: {error.message}"
  | usage error => s!"Presentation error: {error.message}"

/-- One link of the chain of causes. -/
inductive Link
  | failure (f : Failure)
  | stage (s : Stage)
  | config (e : ConfigError)
  | system (e : SystemError)
  | usage (e : UsageError)
  /-- What lies behind a leaf, known by its text. -/
  | detail (text : String)
  deriving DecidableEq, Repr

/-- The text of a link. -/
def Link.text : Link → String
  | .failure f => f.message
  | .stage s => s.message
  | .config e => e.message
  | .system e => e.message
  | .usage e => e.message
  | .detail t => t

/-- The link that tells an error behind a leaf. -/
def Link.ofSource : Source → Link
  | .system error => .system error
  | source => .detail source.text

end Failure

/-! ## The chain of causes -/

open Failure (Link)

mutual

/-- The links behind a fault: those of the error that it was made of. -/
def Fault.links : Fault → List Link
  | .carrying _ source => source.links
  | _ => []

/-- The links of an error and of all that lies behind it. -/
def Source.links : Source → List Link
  | .system error => .system error :: error.links
  | .fault fault => .detail fault.text :: fault.links
  | .last text => [.detail text]
  | .other text next => .detail text :: next.links

/-- The links behind a fault of the system. -/
def SystemError.links : SystemError → List Link
  | .directoryRead _ fault => .detail fault.text :: fault.links
  | .fileRead _ fault => .detail fault.text :: fault.links
  | .fileWrite _ fault => .detail fault.text :: fault.links
  | .summaryRender => [.detail (SystemError.cause .summaryRender)]
  | .summaryForm fault => .detail fault.text :: fault.links
  | .summaryWrite fault => .detail fault.text :: fault.links

end

/-- What lies behind a flaw, if it is not the pattern's own fault. -/
def PatternFlaw.source? (flaw : PatternFlaw) : Option Source :=
  match flaw with
  | .tooLarge _ => some (.last flaw.details)
  | .stated _ cause => cause
  | _ => none

/-- What a refused setting names as its source. -/
def ConfigError.source? : ConfigError → Option Source
  | .invalidConfiguration _ => none
  | .invalidPattern _ flaw => flaw.source?

/-- The links behind a refused setting. -/
def ConfigError.links (error : ConfigError) : List Link :=
  match error.source? with
  | none => []
  | some source => source.links

/-- The texts of what lies behind a refused setting. -/
def ConfigError.causes (error : ConfigError) : List String :=
  error.links.map Link.text

namespace Failure

/-- The chain of causes behind a failure, outermost first. -/
def links : Failure → List Link
  | .context _ cause => .failure cause :: cause.links
  | .stopped stage cause => .stage stage :: .failure cause :: cause.links
  | .config error => .config error :: error.links
  | .system error => .system error :: error.links
  | .usage error => [.usage error]

/-- The texts of the chain of causes. -/
def causes (f : Failure) : List String :=
  f.links.map Link.text

/-- The fault of the system that a failure ends in, if it does. -/
def system? : Failure → Option SystemError
  | .context _ cause => cause.system?
  | .stopped _ cause => cause.system?
  | .system error => some error
  | .config _ => none
  | .usage _ => none

end Failure

end Dealias
