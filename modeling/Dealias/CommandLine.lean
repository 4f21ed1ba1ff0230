import Dealias.Config
import Dealias.Search
import Dealias.Version

/-!
# The command line

Arguments are byte sequences, read from left to right.  An option that takes a value takes it behind
an equals sign or as the next argument, but not one that starts like an option; switches stand
alone, and their short forms can share a dash.  One argument without a dash names the root, and
behind `--` no argument is an option.

The reading stops at the first thing that is wrong, or at a request for help or for the version.  A
value that came as an argument of its own is looked at only when the next thing is taken up, so an
unknown argument behind it is noticed first.  That a run cannot both say more and say less is
checked last.
-/

namespace Dealias

namespace CommandLine

/-- Why arguments are refused. -/
inductive Refusal
  | unknownArgument
  /-- A value is missing, empty where it must not be, or none of those possible. -/
  | invalidValue
  /-- Something is given twice, or together with what it excludes. -/
  | conflict
  /-- A switch is given a value. -/
  | tooManyValues
  /-- A value that must be a text is none. -/
  | notText
  deriving DecidableEq, Repr

/-- What is said about refused arguments. -/
def Refusal.text : Refusal → String
  | unknownArgument => "unexpected argument"
  | invalidValue => "a value is missing or not possible"
  | conflict => "an argument is given twice, or excludes another"
  | tooManyValues => "an option takes no value"
  | notText => "a value is not a text"

/-- What ends the reading early. -/
inductive Stop
  | refused (refusal : Refusal)
  | help
  | version
  deriving DecidableEq, Repr

/-- The exit status of a program that ends here: 2 if the arguments are refused. -/
def Stop.status : Stop → Nat
  | refused _ => 2
  | help => 0
  | version => 0

/-- What takes a value. -/
inductive Slot
  | root | marker | call | extension | format
  deriving DecidableEq, Repr

/-- What is either given or not. -/
inductive Switch
  | dryRun | atomic | verbose | quiet
  deriving DecidableEq, Repr

/-- What an option asks for. -/
inductive Word
  | value (slot : Slot)
  | switch (switch : Switch)
  | help
  | version
  deriving DecidableEq, Repr

/-- The options by their long names. -/
def longWords : List (String × Word) :=
  [("alias", .value .marker), ("call", .value .call), ("ext", .value .extension),
   ("format", .value .format), ("dry-run", .switch .dryRun), ("atomic", .switch .atomic),
   ("verbose", .switch .verbose), ("quiet", .switch .quiet), ("help", .help),
   ("version", .version)]

/-- The options by their short names. -/
def shortWords : List (Char × Word) :=
  [('v', .switch .verbose), ('q', .switch .quiet), ('h', .help), ('V', .version)]

/-- How the program is called. -/
def usage : String :=
  let long := longWords.map fun (name, word) =>
    match word with
    | .value _ => s!"  --{name} VALUE\n"
    | _ => s!"  --{name}\n"
  String.join (s!"Usage: {Version.name} [OPTIONS] [ROOT]\n\nOptions:\n" :: long)

/-- What was given so far. -/
structure Given where
  root : Option Path := none
  marker : Option String := none
  call : Option String := none
  extension : Option String := none
  format : Option Format := none
  dryRun : Bool := false
  atomic : Bool := false
  verbose : Bool := false
  quiet : Bool := false
  deriving DecidableEq, Repr

/-- Was a value given already? -/
def Given.has (g : Given) : Slot → Bool
  | .root => g.root.isSome
  | .marker => g.marker.isSome
  | .call => g.call.isSome
  | .extension => g.extension.isSome
  | .format => g.format.isSome

/-- A value that must be a text. -/
def textValue (value : List UInt8) : Except Refusal String :=
  match Text.ofBytes? value with
  | some text => .ok text
  | none => .error .notText

/-- The format with a name. -/
def formatValue (value : List UInt8) : Except Refusal Format :=
  if value = Text.bytes "text" then .ok .text
  else if value = Text.bytes "json" then .ok .json
  else .error .invalidValue

/-- What was given, with a value more. -/
def Given.set (g : Given) (slot : Slot) (value : List UInt8) : Except Refusal Given :=
  if g.has slot then .error .conflict
  else
    match slot with
    | .root => if value = [] then .error .invalidValue else .ok { g with root := some ⟨value⟩ }
    | .marker => (textValue value).map fun text => { g with marker := some text }
    | .call => (textValue value).map fun text => { g with call := some text }
    | .extension => (textValue value).map fun text => { g with extension := some text }
    | .format => (formatValue value).map fun format => { g with format := some format }

/-- What was given, with a switch more. -/
def Given.turnOn (g : Given) (switch : Switch) : Except Refusal Given :=
  match switch with
  | .dryRun => if g.dryRun then .error .conflict else .ok { g with dryRun := true }
  | .atomic => if g.atomic then .error .conflict else .ok { g with atomic := true }
  | .verbose => if g.verbose then .error .conflict else .ok { g with verbose := true }
  | .quiet => if g.quiet then .error .conflict else .ok { g with quiet := true }

/-- The choices that the given values amount to, with what holds otherwise. -/
def Given.options (g : Given) : Options :=
  let standard : Options := {}
  { root := g.root.getD standard.root
    marker := g.marker.getD standard.marker
    call := g.call.getD standard.call
    extension := g.extension.getD standard.extension
    format := g.format.getD standard.format
    dryRun := g.dryRun
    atomic := g.atomic
    verbose := g.verbose
    quiet := g.quiet }

/-- A value that was not looked at yet. -/
inductive Pending
  | none
  /-- The option was read, its value was not. -/
  | wanted (slot : Slot)
  /-- The value was read too. -/
  | held (slot : Slot) (value : List UInt8)
  deriving DecidableEq, Repr

/-- The state of the reading. -/
structure Reading where
  given : Given := {}
  pending : Pending := .none
  /-- Was there an argument without a dash? -/
  rooted : Bool := false
  /-- Was there the argument `--`? -/
  plain : Bool := false
  deriving DecidableEq, Repr

namespace Reading

/-- Looks at the pending value. -/
def settle (r : Reading) : Except Refusal Reading :=
  match r.pending with
  | .none => .ok r
  | .wanted _ => .error .invalidValue
  | .held slot value =>
    (r.given.set slot value).map fun g => { r with given := g, pending := .none }

/-- Takes up a switch. -/
def turnOn (r : Reading) (switch : Switch) : Except Refusal Reading := do
  let r ← r.settle
  let g ← r.given.turnOn switch
  return { r with given := g }

/-- Takes up an option that asks for no value. -/
def takeWord (r : Reading) : Word → Except Stop Reading
  | .value slot => (r.settle.map fun r => { r with pending := .wanted slot }).mapError .refused
  | .switch switch => (r.turnOn switch).mapError .refused
  | .help =>
    match r.settle with
    | .error refusal => .error (.refused refusal)
    | .ok _ => .error .help
  | .version =>
    match r.settle with
    | .error refusal => .error (.refused refusal)
    | .ok _ => .error .version

/-- Takes up an option with a value behind an equals sign. -/
def takeAttached (r : Reading) (value : List UInt8) : Word → Except Stop Reading
  | .value slot =>
    let taken := do
      let r ← r.settle
      let g ← r.given.set slot value
      return { r with given := g }
    taken.mapError .refused
  | _ => .error (.refused .tooManyValues)

/-- The byte between an option and its value. -/
def equalsSign : UInt8 := 0x3D

/-- Takes up what stands behind two dashes. -/
def takeLong (r : Reading) (body : List UInt8) : Except Stop Reading :=
  let name := body.takeWhile (· ≠ equalsSign)
  match longWords.find? fun entry => Text.bytes entry.1 = name with
  | none => .error (.refused .unknownArgument)
  | some (_, word) =>
    match body.dropWhile (· ≠ equalsSign) with
    | [] => r.takeWord word
    | _ :: value => r.takeAttached value word

/-- Takes up what stands behind one dash, one character after the other. -/
def takeShort (r : Reading) : List Text.Piece → Except Stop Reading
  | [] => .ok r
  | .broken _ :: _ => .error (.refused .unknownArgument)
  | .char c :: rest =>
    match shortWords.find? fun entry => entry.1 = c with
    | none => .error (.refused .unknownArgument)
    | some (_, word) => do
      let r ← r.takeWord word
      takeShort r rest

/-- Takes up an argument that names the root. -/
def takeRoot (r : Reading) (argument : List UInt8) : Except Stop Reading :=
  if r.rooted then .error (.refused .unknownArgument)
  else
    (r.settle.map fun r => { r with pending := .held .root argument, rooted := true }).mapError
      .refused

/-- The byte that options start with. -/
def dash : UInt8 := 0x2D

/-- Takes up an argument that does not start like an option. -/
def takePlain (r : Reading) (argument : List UInt8) : Except Stop Reading :=
  match r.pending with
  | .wanted slot => .ok { r with pending := .held slot argument }
  | _ => r.takeRoot argument

/-- Takes up an argument. -/
def take (r : Reading) (argument : List UInt8) : Except Stop Reading :=
  if r.plain then r.takeRoot argument
  else
    match argument with
    | [a, b] =>
      if a = dash ∧ b = dash then .ok { r with plain := true }
      else if a = dash then r.takeShort (Text.pieces [b])
      else r.takePlain argument
    | a :: b :: body =>
      if a = dash ∧ b = dash then r.takeLong body
      else if a = dash then r.takeShort (Text.pieces (b :: body))
      else r.takePlain argument
    | _ => r.takePlain argument

/-- Takes up all arguments. -/
def takeAll (r : Reading) : List (List UInt8) → Except Stop Reading
  | [] => .ok r
  | argument :: rest => do
    let r ← r.take argument
    takeAll r rest

end Reading

/-- Reads arguments. -/
def parse (arguments : List (List UInt8)) : Except Stop Options := do
  let r ← Reading.takeAll {} arguments
  let r ← r.settle.mapError .refused
  if r.given.verbose ∧ r.given.quiet then .error (.refused .conflict)
  return r.given.options

end CommandLine

end Dealias
