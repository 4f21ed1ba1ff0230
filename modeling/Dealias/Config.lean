import Dealias.Alias
import Dealias.Summary.Render
import Dealias.Text.Blank

/-!
# Settings of a run

`Options` is what the user may choose, with what holds when nothing is chosen.  `Config` is what a
run works with; `Options.config` checks the choices in a fixed order: first the extension, then the
pattern, then the suffix made of the extension.
-/

namespace Dealias

/-- How a changed text is put back. -/
inductive WriteMode
  /-- The file's content is overwritten. -/
  | inPlace
  /-- A new file takes the place of the old one in one step. -/
  | atomic
  deriving DecidableEq, Repr

/-- What the user may choose. -/
structure Options where
  root : Path := Path.ofText "dist"
  marker : String := "~/"
  call : String := "require(\""
  extension : String := ".js"
  dryRun : Bool := false
  atomic : Bool := false
  format : Format := .text
  verbose : Bool := false
  quiet : Bool := false
  deriving DecidableEq, Repr

/-- What a run works with. -/
structure Config where
  root : Path
  pattern : Alias
  suffix : Suffix
  mode : WriteMode
  dryRun : Bool
  format : Format

/-- The usual pattern: a call of `require` with a path that starts with `~/`. -/
def Alias.standard : Alias :=
  ⟨"require(\"", "~/", by decide, by decide, by decide, by decide⟩

/-- The usual suffix. -/
def Suffix.standard : Suffix := ⟨".js", by decide⟩

/-- The usual settings for a root. -/
def Config.standard (root : Path) : Config where
  root := root
  pattern := .standard
  suffix := .standard
  mode := .inPlace
  dryRun := false
  format := .text

namespace Options

/-- An extension as a suffix: without white space around it, and with a dot in front.  Nothing, or
a dot alone, names no extension. -/
def suffixText (extension : String) : Except UsageError String :=
  let trimmed := Text.trim extension.toList
  if trimmed = [] ∨ trimmed = ['.'] then
    .error ⟨"--ext", extension, "must name a file extension such as .js"⟩
  else if trimmed.head? = some '.' then .ok (String.ofList trimmed)
  else .ok (String.ofList ('.' :: trimmed))

/-- The settings that the choices amount to. -/
def config (o : Options) : Except Failure Config := do
  let text ← (suffixText o.extension).mapError .usage
  let pattern ← (Alias.ofParts o.call o.marker).mapError .config
  let suffix ← (Suffix.ofText text).mapError .config
  return {
    root := o.root
    pattern := pattern
    suffix := suffix
    mode := if o.atomic then .atomic else .inPlace
    dryRun := o.dryRun
    format := o.format }

end Options

end Dealias
