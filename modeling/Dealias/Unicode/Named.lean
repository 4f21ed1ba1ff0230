import Dealias.Text.CharSet

/-!
# Names of sets of characters

The names that properties of characters and their values have.  Names that differ only in case, in
blanks, lines and hyphens, in characters beyond ASCII, or in the word `is` in front are the same.
-/

namespace Dealias.Unicode

open Text

/-- A set of characters with its names. -/
structure Named where
  names : List String
  set : CharSet

/-- Does a character of a name count? -/
def nameCounts (c : Char) : Bool :=
  c.toNat < 0x80 && c ≠ ' ' && c ≠ '_' && c ≠ '-'

/-- What counts of a name. -/
def bare (name : List Char) : List Char :=
  let small := name.map Char.toLower
  match small with
  | 'i' :: 's' :: rest =>
    match rest.filter nameCounts with
    | ['c'] => ['i', 's', 'c']
    | counting => counting
  | _ => small.filter nameCounts

/-- Is a name one of some? -/
def isOneOf (names : List String) (name : List Char) : Bool :=
  names.any fun other => bare other.toList = bare name

/-- The set with a name. -/
def Named.find? (sets : List Named) (name : List Char) : Option CharSet :=
  (sets.find? fun named => isOneOf named.names name).map Named.set

end Dealias.Unicode
