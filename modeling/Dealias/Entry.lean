import Dealias.Depth
import Dealias.Failure

/-!
# Entries and candidates

A walk finds entries: the path of a file with its depth.  Candidates are the entries whose path
ends in a given suffix, byte for byte and over the whole path, not only its last name.
-/

namespace Dealias

/-- A file that a walk found. -/
structure Entry where
  path : Path
  depth : Depth
  deriving DecidableEq, Repr

/-- The ending that makes a file a candidate. -/
structure Suffix where
  text : String
  text_ne : text ≠ ""

namespace Suffix

/-- A suffix must not be empty. -/
def ofText (text : String) : Except ConfigError Suffix :=
  if h : text = "" then .error (.invalidConfiguration "candidate extension must not be empty")
  else .ok ⟨text, h⟩

/-- Does the path end in the suffix? -/
def accepts (s : Suffix) (path : Path) : Bool :=
  (Text.bytes s.text).isSuffixOf path.bytes

/-- The entries that end in the suffix, in their order. -/
def candidates (s : Suffix) (entries : List Entry) : List Entry :=
  entries.filter (s.accepts ·.path)

end Suffix

end Dealias
