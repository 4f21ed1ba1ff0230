import Mathlib
import Dealias.Proofs.Delivery
import Dealias.Proofs.Found
import Dealias.Proofs.Stretch

/-!
# The exit status

The program ends with 2 if it cannot read its arguments, with 1 if anything fails after that, and
with 0 otherwise.  What can fail are the settings, the walk, one of the files, and the summary, which
is written as JSON only if all changed paths are texts (`Fails`).

The output holds the summary and a newline, or nothing.  It holds nothing also where files were
rewritten and only their paths could not be told.  Before the arguments and the settings are accepted
the disk plays no part: the program ends the same on every disk, and leaves it as it is
(`exit_status_tells_what_failed`).
-/

namespace Dealias

namespace Program

open Disk (Location)

variable {here : Location} {options : Options} {config : Config} {disk : Disk} {stdout : Sink}
  {summary : Summary} {rendered : String}

/-! ## What can fail -/

/-- What can fail once the arguments were read: the settings are refused, the walk fails, a candidate
cannot be fixed when those in front of it were, or the summary cannot be told. -/
inductive Fails (here : Location) (options : Options) (disk : Disk) : Prop
  | refused {failure : Failure} (hconfig : options.config = .error failure) :
      Fails here options disk
  | unwalked {config : Config} {e : SystemError} (hconfig : options.config = .ok config)
      (hwalk : (disk.walk here config.root).result = .error e) : Fails here options disk
  | unfixed {config : Config} {entries before after : List Entry} {entry : Entry} {final : Disk}
      {done : Account} {events failed : List Event} {e : SystemError}
      (hconfig : options.config = .ok config)
      (hwalk : (disk.walk here config.root).result = .ok entries)
      (hsplit : config.suffix.candidates entries = before ++ entry :: after)
      (h : Stretch (Disk.access here config.mode) config.pattern config.dryRun true disk before
        final done events)
      (hfix : fixFile (Disk.access here config.mode) config.pattern config.dryRun final entry =
        ⟨failed, .error e⟩) : Fails here options disk
  | untold {config : Config} {summary : Summary} {p : Path} (hconfig : options.config = .ok config)
      (hresult : (runConfig here config disk).result = .ok summary) (hformat : config.format = .json)
      (hchanged : p ∈ summary.changed) (htext : p.text? = none) : Fails here options disk

/-- A run ends with a summary, or something failed. -/
theorem fails_or_finishes (here : Location) (disk : Disk) (hconfig : options.config = .ok config) :
    (Fails here options disk ∧ ∃ report, (runConfig here config disk).result = .error report) ∨
      ∃ summary, (runConfig here config disk).result = .ok summary := by
  have hending := run_ending (Disk.access here config.mode) config true disk
  unfold runConfig
  generalize run (Disk.access here config.mode) config true disk = made at hending
  cases hending with
  | unwalked hwalk => exact .inl ⟨.unwalked hconfig (congrArg Prod.snd hwalk), _, rfl⟩
  | finished => exact .inr ⟨_, rfl⟩
  | stopped hwalk hsplit h hfix =>
      exact .inl ⟨.unfixed hconfig (congrArg Prod.snd hwalk) hsplit h hfix, _, rfl⟩

/-- Nothing failed if the run ended with a summary that can be told. -/
theorem not_fails_of_render (hconfig : options.config = .ok config)
    (hresult : (runConfig here config disk).result = .ok summary)
    (hrender : summary.render config.format = .ok rendered) : ¬ Fails here options disk := by
  have hrun : (run (Disk.access here config.mode) config true disk).result = .ok summary :=
    Disk.eq_ok_of_mapError hresult
  intro hfails
  cases hfails with
  | refused hrefused =>
      rw [hconfig] at hrefused
      cases hrefused
  | unwalked hsame hwalk =>
      obtain rfl := Except.ok.inj (hconfig.symm.trans hsame)
      rw [(Ending.unwalked (Disk.access_walk config.mode hwalk)).run_eq] at hrun
      cases hrun
  | unfixed hsame hwalk hsplit h hfix =>
      obtain rfl := Except.ok.inj (hconfig.symm.trans hsame)
      have hlisted := Disk.access_walk config.mode hwalk
      rw [(Ending.stopped hlisted hsplit h hfix).run_eq] at hrun
      cases hrun
  | untold hsame hother hformat hchanged htext =>
      obtain rfl := Except.ok.inj (hconfig.symm.trans hsame)
      obtain rfl := Except.ok.inj (hresult.symm.trans hother)
      have herror := Summary.render_eq_error_iff.2 ⟨rfl, hformat, _, hchanged, htext⟩
      rw [hrender] at herror
      cases herror

/-! ## Sessions -/

/-- All that a session can come to whose output has no limit. -/
inductive Course (here : Location) (options : Options) (disk : Disk) : Session → Prop
  | failed {session : Session} {report : Report} (hfails : Fails here options disk)
      (hresult : session.result = .error report) (houtput : session.output = []) :
      Course here options disk session
  | finished {session : Session} {config : Config} {summary : Summary} {rendered : String}
      (hconfig : options.config = .ok config)
      (hrun : (runConfig here config disk).result = .ok summary)
      (hrender : summary.render config.format = .ok rendered)
      (hresult : session.result = .ok summary)
      (houtput : session.output = Text.bytes rendered ++ Text.bytes "\n") :
      Course here options disk session

/-- With room for all that is told, a run takes one of the courses. -/
theorem runOptions_course (here : Location) (options : Options) (disk : Disk)
    (hroom : stdout.room = none) :
    Course here options disk (runOptions here options stdout disk) := by
  cases hconfig : options.config with
  | error failure =>
      have hsession : runOptions here options stdout disk =
          ⟨[], disk, [], .error ⟨["invalid arguments"], failure⟩⟩ := by
        simp only [runOptions, hconfig]
      rw [hsession]
      exact .failed (.refused hconfig) rfl rfl
  | ok config =>
      rcases fails_or_finishes here disk hconfig with
        ⟨hfails, report, hresult⟩ | ⟨summary, hresult⟩
      · have hsession : runOptions here options stdout disk = runConfig here config disk := by
          simp only [runOptions, hconfig, hresult]
        rw [hsession]
        exact .failed hfails hresult rfl
      · obtain ⟨houtput, hended⟩ := runOptions_prints stdout hconfig hresult
        cases hrender : summary.render config.format with
        | error e =>
            obtain ⟨rfl, hformat, p, hchanged, htext⟩ := Summary.render_eq_error_iff.1 hrender
            rw [Summary.write_of_error hrender] at houtput hended
            exact .failed (.untold hconfig hresult hformat hchanged htext) hended houtput
        | ok rendered =>
            rw [Summary.write_of_unlimited hrender hroom] at houtput hended
            exact .finished hconfig hresult hrender hended houtput

/-! ## The program -/

open CommandLine (parse)

/-- The arguments cannot be read. -/
def Refused (arguments : List (List UInt8)) : Prop :=
  ∃ refusal, parse arguments = .error (.refused refusal)

/-- The arguments were read, and something failed after that. -/
def Failed (arguments : List (List UInt8)) (here : Location) (disk : Disk) : Prop :=
  ∃ options, parse arguments = .ok options ∧ Fails here options disk

/-- The arguments were read, and the settings are refused. -/
def Unusable (arguments : List (List UInt8)) : Prop :=
  ∃ options failure, parse arguments = .ok options ∧ options.config = .error failure

/-- The program does nothing with its disk: it leaves it as it is, and ends the same on any other
one, and nothing is asked for. -/
structure Untouched (arguments : List (List UInt8)) (setting : Option (List UInt8))
    (here : Location) (stdout : Sink) (disk : Disk) : Prop where
  kept : (execute arguments setting here stdout disk).disk = disk
  same : ∀ other, execute arguments setting here stdout other =
    { execute arguments setting here stdout disk with disk := other }
  events : ∀ options, parse arguments = .ok options →
    (runOptions here options stdout disk).events = []

/-- What the output holds when the program succeeds: the summary of its run, and a newline. -/
def Told (arguments : List (List UInt8)) (here : Location) (disk : Disk)
    (output : List UInt8) : Prop :=
  ∃ options config summary rendered, parse arguments = .ok options ∧
    options.config = .ok config ∧ (runConfig here config disk).result = .ok summary ∧
    summary.render config.format = .ok rendered ∧
    output = Text.bytes rendered ++ Text.bytes "\n"

/-- What an ending tells of the program. -/
structure Tells (arguments : List (List UInt8)) (setting : Option (List UInt8)) (here : Location)
    (stdout : Sink) (disk : Disk) (ending : Ending) : Prop where
  two : ending.status = 2 ↔ Refused arguments
  one : ending.status = 1 ↔ Failed arguments here disk
  zero : ending.status = 0 ↔ ¬ Refused arguments ∧ ¬ Failed arguments here disk
  silent : ending.status ≠ 0 → ending.output = []
  told : ending.status = 0 → Told arguments here disk ending.output
  untouched : Refused arguments ∨ Unusable arguments →
    Untouched arguments setting here stdout disk

variable {arguments : List (List UInt8)} {setting : Option (List UInt8)}

/-- Refused arguments leave the disk untouched. -/
theorem untouched_of_refused (h : Refused arguments) :
    Untouched arguments setting here stdout disk := by
  obtain ⟨refusal, hparse⟩ := h
  refine ⟨by simp [execute, hparse, stopped], fun other => by simp [execute, hparse, stopped], ?_⟩
  intro options hoptions
  rw [hparse] at hoptions
  cases hoptions

/-- Unusable values leave the disk untouched. -/
theorem untouched_of_unusable (h : Unusable arguments) :
    Untouched arguments setting here stdout disk := by
  obtain ⟨options, failure, hparse, hconfig⟩ := h
  refine ⟨by simp [execute, hparse, runOptions, hconfig, finished],
    fun other => by simp [execute, hparse, runOptions, hconfig, finished], ?_⟩
  intro other hother
  rw [hparse] at hother
  cases hother
  simp [runOptions, hconfig]

/-- The program leaves the disk that its run leaves, whatever becomes of the summary. -/
theorem execute_disk {options : Options} (hparse : parse arguments = .ok options)
    (hconfig : options.config = .ok config) :
    (execute arguments setting here stdout disk).disk = (runConfig here config disk).disk := by
  simp only [execute, hparse, finished, runOptions, hconfig]
  split <;> rfl

/-- **The exit status tells what failed**, to whoever gives the program an output without a limit and
asks neither for help nor for the version. -/
theorem exit_status_tells_what_failed (arguments : List (List UInt8))
    (setting : Option (List UInt8)) (here : Location) (stdout : Sink) (disk : Disk)
    (hhelp : parse arguments ≠ .error .help) (hversion : parse arguments ≠ .error .version)
    (hroom : stdout.room = none) :
    Tells arguments setting here stdout disk (execute arguments setting here stdout disk) := by
  have huntouched : Refused arguments ∨ Unusable arguments →
      Untouched arguments setting here stdout disk :=
    fun h => h.elim untouched_of_refused untouched_of_unusable
  cases hparse : parse arguments with
  | error stop =>
      cases stop with
      | help => exact absurd hparse hhelp
      | version => exact absurd hparse hversion
      | refused refusal =>
          have hrefused : Refused arguments := ⟨refusal, hparse⟩
          have hfailed : ¬ Failed arguments here disk := by
            rintro ⟨options, hoptions, -⟩
            rw [hparse] at hoptions
            cases hoptions
          have hstatus : (execute arguments setting here stdout disk).status = 2 := by
            simp [execute, hparse, stopped, CommandLine.Stop.status]
          have houtput : (execute arguments setting here stdout disk).output = [] := by
            simp [execute, hparse, stopped]
          refine ⟨?_, ?_, ?_, fun _ => houtput, ?_, huntouched⟩ <;>
            simp [hstatus, hrefused, hfailed]
  | ok options =>
      have hrefused : ¬ Refused arguments := by
        rintro ⟨refusal, hrefusal⟩
        rw [hparse] at hrefusal
        cases hrefusal
      have hfailed : Failed arguments here disk ↔ Fails here options disk := by
        simp [Failed, hparse]
      have hcourse := runOptions_course here options disk hroom
      have hexecute : execute arguments setting here stdout disk =
          finished (Log.written (setting.bind Text.ofBytes?) options.verbose options.quiet
            (runOptions here options stdout disk).events) (runOptions here options stdout disk) := by
        simp [execute, hparse]
      rw [hexecute]
      cases hcourse with
      | failed hfails hresult houtput =>
          refine ⟨?_, ?_, ?_, fun _ => houtput, ?_, huntouched⟩ <;>
            simp [finished, hresult, hrefused, hfailed, hfails]
      | finished hconfig hrun hrender hresult houtput =>
          have hfails := not_fails_of_render hconfig hrun hrender
          refine ⟨?_, ?_, ?_, ?_, fun _ => ?_, huntouched⟩
          · simp [finished, hresult, hrefused]
          · simp [finished, hresult, hfailed, hfails]
          · simp [finished, hresult, hrefused, hfailed, hfails]
          · simp [finished, hresult]
          · exact ⟨options, _, _, _, hparse, hconfig, hrun, hrender, houtput⟩

/-- A file with a reference and a name that is no text. -/
def unnamedDisk : Disk where
  nodes :=
    ⟨[(.ofPath (.ofText "/d"), .directory),
      (.ofPath ((Path.ofText "/d").child (0xFF :: Text.bytes ".js")), .file 0)],
      by decide⟩
  files := .set .empty 0 ⟨Text.bytes "require(\"~/x\")", 0o644, false⟩

/-- A file is rewritten whose path cannot be told in JSON, and the output stays empty. -/
theorem exit_status_of_unnamedDisk :
    let arguments := [Text.bytes "--format=json", Text.bytes "d"]
    let ending := execute arguments none [] .unlimited unnamedDisk
    Tells arguments none [] .unlimited unnamedDisk ending ∧ ending.status = 1 ∧
      ending.output = [] ∧
      ending.disk.look [⟨Text.bytes "d", by decide⟩, ⟨0xFF :: Text.bytes ".js", by decide⟩] =
        some (.file (Text.bytes "require(\"./x\")") 0o644 true) := by
  intro arguments ending
  have hparse : parse arguments = .ok { root := .ofText "d", format := .json } := by cbv
  have htells := exit_status_tells_what_failed arguments none [] .unlimited unnamedDisk
    (by simp [hparse]) (by simp [hparse]) rfl
  have hrun : (runConfig [] { Config.standard (.ofText "d") with format := .json }
      unnamedDisk).result =
        .ok ⟨1, [⟨Text.bytes "d/" ++ 0xFF :: Text.bytes ".js"⟩], 1, false⟩ := by
    cbv
  have hstatus : ending.status = 1 :=
    htells.one.2 ⟨_, hparse, .untold rfl hrun rfl (List.mem_singleton_self _) (by decide)⟩
  refine ⟨htells, hstatus, htells.silent (by rw [hstatus]; decide), ?_⟩
  rw [execute_disk hparse rfl]
  cbv

end Program

end Dealias
