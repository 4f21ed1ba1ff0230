import Dealias.Log
import Dealias.Regex.Moves
import Dealias.Regex.Pattern
import Dealias.Text.Blank

/-!
# What is logged

A log setting is a list of directives between commas: a level, for everything, or a target with a
level, for the parts of the program whose name starts with the target.  The directive with the
longest target that fits a record decides on it.  A record that no directive fits is left out.

Behind a slash a setting may have a pattern, and then a record is left out also if the pattern is
not found in its message.  Whatever is wrong in a setting is told and otherwise ignored.
-/

namespace Dealias.Log

/-- The least important level that is let through; with `none`, nothing is. -/
abbrev Threshold := Option Level

/-- Does a threshold let a level through? -/
def Threshold.admits (t : Threshold) (level : Level) : Bool :=
  match t with
  | none => false
  | some least => level.rank ≤ least.rank

/-- The threshold with a name, in letters of either case. -/
def Threshold.ofName? (name : List Char) : Option Threshold :=
  let same (word : String) := name.map Char.toLower = word.toList.map Char.toLower
  if same "off" then some none
  else (Level.all.find? fun level => same level.name).map some

/-- A threshold for the parts of the program whose name starts with `target`, or for all. -/
structure Directive where
  target : Option (List Char)
  threshold : Threshold
  deriving DecidableEq

namespace Directive

/-- The directive that a text describes; otherwise the part of it that is wrong.  A target alone
lets everything through. -/
def ofText (text : List Char) : Except (List Char) Directive :=
  match Search.parts '=' text with
  | [only] =>
    match Threshold.ofName? only with
    | some threshold => .ok ⟨none, threshold⟩
    | none => .ok ⟨some only, some .trace⟩
  | [target, level] =>
    let level := Text.trim level
    if level = [] then .ok ⟨some target, some .trace⟩
    else
      match Threshold.ofName? level with
      | some threshold => .ok ⟨some target, threshold⟩
      | none => .error level
  | _ => .error text

/-- Does a directive concern a part of the program? -/
def fits (d : Directive) (source : Source) : Bool :=
  match d.target with
  | none => true
  | some target => target.isPrefixOf source.target.toList

/-- The length of the target. -/
def weight (d : Directive) : Nat :=
  (d.target.getD []).length

end Directive

/-- What is wrong in a setting. -/
inductive Mistake
  /-- A directive with a part that makes no sense. -/
  | directive (part : List Char)
  /-- More than one slash. -/
  | slashes (setting : List Char)
  | pattern (text : List Char) (refusal : Regex.Refusal)
  deriving DecidableEq

/-- How a mistake is told. -/
def Mistake.message : Mistake → String
  | directive part => s!"invalid logging spec '{String.ofList part}'"
  | slashes setting => s!"invalid logging spec '{String.ofList setting}' (too many '/'s)"
  | pattern text refusal => s!"invalid regex filter - {refusal.message text}"

/-- Directives, no two for the same target, and what is to be found in a message. -/
structure Filter where
  directives : List Directive
  pattern : Option Regex

namespace Filter

/-- The filter with a directive, which takes the place of one for the same target. -/
def insert (f : Filter) (d : Directive) : Filter :=
  if f.directives.any (·.target = d.target) then
    { f with directives := f.directives.map fun e => if e.target = d.target then d else e }
  else { f with directives := f.directives ++ [d] }

/-- The directive that decides on a part of the program.  Of two with targets of the same length,
the later one does. -/
def decisive? (f : Filter) (source : Source) : Option Directive :=
  (f.directives.filter (·.fits source)).foldl (fun best d =>
    match best with
    | none => some d
    | some b => if b.weight ≤ d.weight then some d else some b) none

/-- Is a record let through? -/
def admits (f : Filter) (r : Record) : Bool :=
  match f.decisive? r.source with
  | none => false
  | some d =>
    Threshold.admits d.threshold r.level &&
      f.pattern.all fun pattern => pattern.occursIn r.message.toList

/-- The directives in a list of them, and the mistakes in it. -/
def readDirectives (list : List Char) : List Directive × List Mistake :=
  let texts := ((Search.parts ',' list).map Text.trim).filter (· ≠ [])
  let read := texts.map Directive.ofText
  (read.filterMap (·.toOption), read.filterMap fun
    | .ok _ => none
    | .error wrong => some (.directive wrong))

/-- The pattern of a setting, or the mistake in it. -/
def readPattern (text : List Char) : Option Regex × List Mistake :=
  match Regex.ofPattern text with
  | .ok pattern => (some pattern, [])
  | .error refusal => (none, [.pattern text refusal])

/-- The filter of a setting alone, and the mistakes in it. -/
def readSetting (setting : List Char) : Filter × List Mistake :=
  match Search.parts '/' setting with
  | [list] =>
    let (directives, mistakes) := readDirectives list
    (directives.foldl insert ⟨[], none⟩, mistakes)
  | [list, text] =>
    let (directives, mistakes) := readDirectives list
    let (pattern, more) := readPattern text
    (directives.foldl insert ⟨[], pattern⟩, mistakes ++ more)
  | _ => (⟨[], none⟩, [.slashes setting])

/-- The setting where there is none. -/
def standardSetting : String := "warn"

/-- The filter of a setting, under the choice of the user to hear more or less, with the mistakes in
the setting. -/
def ofSetting (setting : Option String) (verbose quiet : Bool) : Filter × List Mistake :=
  let (base, mistakes) := readSetting (setting.getD standardSetting).toList
  let chosen :=
    if verbose then base.insert ⟨none, some .debug⟩
    else if quiet then base.insert ⟨none, some .error⟩
    else base
  (if chosen.directives = [] then chosen.insert ⟨none, some .error⟩ else chosen, mistakes)

end Filter

/-- The log of some events under a setting, as it is written out: a warning for each mistake in the
setting, and the records that are let through. -/
def written (setting : Option String) (verbose quiet : Bool) (events : List Event) : String :=
  let (filter, mistakes) := Filter.ofSetting setting verbose quiet
  let warnings := mistakes.map fun mistake => s!"warning: {mistake.message}, ignoring it\n"
  String.join (warnings ++ ((records events).filter filter.admits).map Record.line)

end Dealias.Log
