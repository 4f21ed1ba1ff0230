import Dealias.Path
import Dealias.Search

/-!
# Names and steps

A directory holds its entries under names.  A `Location` says where an entry is by the names on the
way down from the top, so two entries never share one.  A path says it in `Step`s, which also go up
or stay, may meet links, and start from wherever the reader is.
-/

namespace Dealias.Disk

/-- What a directory can hold an entry under: at most 255 bytes, neither a separator nor the byte
zero among them, and not one of the two words of dots. -/
def IsName (bytes : List UInt8) : Prop :=
  bytes ≠ [] ∧ bytes ≠ [Path.dot] ∧ bytes ≠ [Path.dot, Path.dot] ∧
    Path.slash ∉ bytes ∧ 0 ∉ bytes ∧ bytes.length ≤ 255

instance (bytes : List UInt8) : Decidable (IsName bytes) := by
  unfold IsName
  infer_instance

/-- The name of an entry in its directory. -/
structure Name where
  bytes : List UInt8
  isName : IsName bytes
  deriving DecidableEq

/-- The name made of some bytes, if they make one. -/
def Name.ofBytes? (bytes : List UInt8) : Option Name :=
  if h : IsName bytes then some ⟨bytes, h⟩ else none

/-- Does a name stand before another in the order of bytes, or is it the same? -/
def Name.le (a b : Name) : Bool :=
  decide (a.bytes ≤ b.bytes)

/-- Where an entry is: the names on the way down from the top. -/
abbrev Location := List Name

/-- The absolute path of a location, written without detours. -/
def Location.path (l : Location) : Path :=
  if l = [] then ⟨[Path.slash]⟩ else ⟨l.flatMap fun n => Path.slash :: n.bytes⟩

/-- One step on the way that a path describes. -/
inductive Step
  /-- Stay. -/
  | here
  /-- Go up to the directory above; from the top this stays at the top. -/
  | up
  /-- Go to the entry with a name. -/
  | down (name : Name)
  /-- Go to an entry under that many bytes, which no directory can hold one under. -/
  | overlong (length : Nat)
  /-- Only ever last: what the path names is meant as a directory. -/
  | slash
  deriving DecidableEq

/-- The step that the bytes between two separators describe. -/
def Step.ofBytes (bytes : List UInt8) : Step :=
  if bytes = [Path.dot] then .here
  else if bytes = [Path.dot, Path.dot] then .up
  else match Name.ofBytes? bytes with
    | some name => .down name
    | none => .overlong bytes.length

/-- The steps of a path.  Separators in a row count as one; a last one leaves its mark. -/
def steps (p : Path) : List Step :=
  let named := ((Search.parts Path.slash p.bytes).filter (· ≠ [])).map Step.ofBytes
  if p.endsInSlash ∧ named ≠ [] then named ++ [.slash] else named

/-- The location that a step leads to where no link is on the way. -/
def Location.after (l : Location) : Step → Location
  | .up => l.dropLast
  | .down name => l ++ [name]
  | .here | .overlong _ | .slash => l

/-- The location of an absolute path with no link on its way. -/
def Location.ofPath (p : Path) : Location :=
  (steps p).foldl Location.after []

end Dealias.Disk
