import Dealias.CommandLine
import Dealias.Failure.Report
import Dealias.Log.Filter
import Dealias.Run.OnDisk

/-!
# The program

Everything from the arguments to the exit status: arguments are read, choices are checked, the run
is made on a disk, and its summary is written to the output.  The log and the report of a failure go
to a second channel, so that the output holds nothing but the summary.

The exit status is 2 if the arguments are refused, 1 if anything fails after that, and 0 otherwise.
-/

namespace Dealias.Program

/-- What came of a run: its events, the disk it left, what was written to the output, and the
summary or the report of a failure. -/
structure Session where
  events : List Event
  disk : Disk
  output : List UInt8
  result : Except Report Summary

/-- Makes the run of some settings. -/
def runConfig (here : Disk.Location) (config : Config) (disk : Disk) : Session :=
  let made := run (Disk.access here config.mode) config true disk
  { events :=
      .started (config.root.absolute (some here.path)) config.pattern.literal config.dryRun ::
        made.events
    disk := made.store
    output := []
    result := made.result.mapError fun failure =>
      ⟨[s!"failed to fix alias paths under '{config.root.display}'"], failure⟩ }

/-- Makes the run of some choices and writes its summary. -/
def runOptions (here : Disk.Location) (options : Options) (stdout : Sink) (disk : Disk) : Session :=
  match options.config with
  | .error failure => ⟨[], disk, [], .error ⟨["invalid arguments"], failure⟩⟩
  | .ok config =>
    let session := runConfig here config disk
    match session.result with
    | .error _ => session
    | .ok summary =>
      let writing := summary.write config.format stdout
      { session with
        output := writing.bytes
        result := match writing.failure? with
          | none => .ok summary
          | some failure => .error ⟨[], .context "failed to print summary" failure⟩ }

/-- How the program ended. -/
structure Ending where
  /-- Why the arguments were not followed, if they were not. -/
  stop? : Option CommandLine.Stop
  status : Nat
  output : List UInt8
  /-- The log and the report of a failure. -/
  messages : String
  disk : Disk

/-- The name and version as a line. -/
def versionLine : String := s!"{Version.name} {Version.number}\n"

/-- The end of a program whose arguments are not followed: it tells its usage or version if asked,
and otherwise what is wrong. -/
def stopped (stop : CommandLine.Stop) (stdout : Sink) (disk : Disk) : Ending where
  stop? := some stop
  status := stop.status
  output := match stop with
    | .help => (stdout.writeAll (Text.bytes CommandLine.usage)).bytes
    | .version => (stdout.writeAll (Text.bytes versionLine)).bytes
    | .refused _ => []
  messages := match stop with
    | .refused refusal => s!"error: {refusal.text}\n"
    | _ => ""
  disk := disk

/-- The end of a program that followed its arguments. -/
def finished (log : String) (session : Session) : Ending where
  stop? := none
  status := match session.result with
    | .ok _ => 0
    | .error _ => 1
  output := session.output
  messages := match session.result with
    | .ok _ => log
    | .error report => log ++ s!"Application Error: {report.text}\n"
  disk := session.disk

/-- The program, with its arguments, the log setting in its environment, its working directory, its
output and the disk.  A log setting that is not a text counts as none. -/
def execute (arguments : List (List UInt8)) (setting : Option (List UInt8)) (here : Disk.Location)
    (stdout : Sink) (disk : Disk) : Ending :=
  match CommandLine.parse arguments with
  | .error stop => stopped stop stdout disk
  | .ok options =>
    let session := runOptions here options stdout disk
    let log :=
      Log.written (setting.bind Text.ofBytes?) options.verbose options.quiet session.events
    finished log session

end Dealias.Program
