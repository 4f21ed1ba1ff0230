import Dealias.Text.Quoted

/-!
# Paths

A path is the byte sequence that names a file.  It need not be a text, and it is never tidied: two
spellings of one place are two paths.  What is defined here looks at the bytes alone; where a path
leads is a question to the file system.
-/

namespace Dealias

/-- The name of a file, as bytes. -/
structure Path where
  bytes : List UInt8
  deriving DecidableEq, Repr

namespace Path

/-- The byte that separates the names of a path. -/
def slash : UInt8 := 0x2F

/-- The byte that stands alone for "here". -/
def dot : UInt8 := 0x2E

/-- A text as a path. -/
def ofText (text : String) : Path :=
  ⟨Text.bytes text⟩

/-- The path as a text, if it is one. -/
def text? (p : Path) : Option String :=
  Text.ofBytes? p.bytes

/-- The path as messages show it. -/
def display (p : Path) : String :=
  Text.lossy p.bytes

/-- The path in quotation marks, every byte of it recognisable. -/
def quoted (p : Path) : String :=
  Text.quoted p.bytes

/-- Does the path start from the top of the file system? -/
def isAbsolute (p : Path) : Bool :=
  p.bytes.head? == some slash

/-- Does the path end in a separator? -/
def endsInSlash (p : Path) : Bool :=
  p.bytes.getLast? == some slash

/-- The path of a name seen from `p`: one separator comes between them unless `p` is empty or ends
in one. -/
def child (p : Path) (name : List UInt8) : Path :=
  if p.bytes = [] ∨ p.endsInSlash then ⟨p.bytes ++ name⟩ else ⟨p.bytes ++ slash :: name⟩

/-- A path seen from a directory.  An absolute path stays what it is. -/
def under (p : Path) (directory : Path) : Path :=
  if p.isAbsolute then p else directory.child p.bytes

/-- The path made absolute by its bytes alone, with no look at links.  Without a known working
directory it is left as it is. -/
def absolute (workingDirectory : Option Path) (p : Path) : Path :=
  match workingDirectory with
  | some directory => p.under directory
  | none => p

/-- A reversed path without the separators and lone dots it ends in.  The separator that starts an
absolute path and the dot that starts a relative one stay. -/
def trimReversed : List UInt8 → List UInt8
  | [] => []
  | [b] => [b]
  | b :: c :: rest =>
    if b = slash ∨ (b = dot ∧ c = slash) then trimReversed (c :: rest) else b :: c :: rest

/-- The path without its last name.  The empty path and the top of the file system have none. -/
def parent? (p : Path) : Option Path :=
  match trimReversed p.bytes.reverse with
  | [] => none
  | [b] => if b = slash then none else some ⟨[]⟩
  | reversed => some ⟨(trimReversed (reversed.dropWhile (· ≠ slash))).reverse⟩

/-- The directory that holds the last name of the path; `.` where the path does not say. -/
def directory (p : Path) : Path :=
  match p.parent? with
  | some parent => if parent.bytes = [] then ⟨[dot]⟩ else parent
  | none => ⟨[dot]⟩

end Path

end Dealias
