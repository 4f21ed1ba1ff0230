import Dealias.Regex.Flags
import Dealias.Unicode.Property

/-!
# Sets of characters in patterns

The sets that have a sign or a name in patterns, and what flags make of a set.  Without the flag for
Unicode the signs stand for ASCII characters, and a set must not hold any other.
-/

namespace Dealias.Regex

open Text

namespace Class

/-- The ASCII characters in some ranges. -/
def ofPairs (pairs : List (Char × Char)) : CharSet :=
  .ofRanges (pairs.map fun (first, last) => (first.toNat, last.toNat))

/-- Capital letters of ASCII. -/
def capitals : CharSet := .range 'A' 'Z'

/-- Small letters of ASCII. -/
def smallLetters : CharSet := .range 'a' 'z'

/-- The set with a name between `[:` and `:]`. -/
def named? (name : String) : Option CharSet :=
  ofPairs <$> [
    ("alnum", [('0', '9'), ('A', 'Z'), ('a', 'z')]),
    ("alpha", [('A', 'Z'), ('a', 'z')]),
    ("ascii", [('\x00', '\x7f')]),
    ("blank", [('\t', '\t'), (' ', ' ')]),
    ("cntrl", [('\x00', '\x1f'), ('\x7f', '\x7f')]),
    ("digit", [('0', '9')]),
    ("graph", [('!', '~')]),
    ("lower", [('a', 'z')]),
    ("print", [(' ', '~')]),
    ("punct", [('!', '/'), (':', '@'), ('[', '\x60'), ('\x7b', '~')]),
    ("space", [('\t', '\r'), (' ', ' ')]),
    ("upper", [('A', 'Z')]),
    ("word", [('0', '9'), ('A', 'Z'), ('_', '_'), ('a', 'z')]),
    ("xdigit", [('0', '9'), ('A', 'F'), ('a', 'f')])].lookup name

/-- Decimal digits. -/
def digits (flags : Flags) : CharSet :=
  if Flag.unicode ∈ flags then Unicode.Category.decimalNumber else .range '0' '9'

/-- White space. -/
def blanks (flags : Flags) : CharSet :=
  if Flag.unicode ∈ flags then Unicode.whiteSpace else ofPairs [('\t', '\r'), (' ', ' ')]

/-- What words are made of. -/
def words (flags : Flags) : CharSet :=
  if Flag.unicode ∈ flags then Unicode.word
  else ofPairs [('0', '9'), ('A', 'Z'), ('_', '_'), ('a', 'z')]

/-- Everything but the end of a line; with the flag for it, everything. -/
def dot (flags : Flags) : CharSet :=
  if Flag.dotAll ∈ flags then .all
  else if Flag.crlf ∈ flags then .others (.ofList ['\n', '\r'])
  else .others (.char '\n')

/-- A set of ASCII characters together with the same letters in the other case. -/
def foldAscii (s : CharSet) : CharSet :=
  let toSmall := (s.inter capitals).ranges.map fun r => (r.1 + 32, r.2 + 32)
  let toCapitals := (s.inter smallLetters).ranges.map fun r => (r.1 - 32, r.2 - 32)
  .ofRanges (s.ranges ++ toSmall ++ toCapitals)

/-- The set together with what is taken for its characters where case does not count, if it does
not. -/
def fold (flags : Flags) (s : CharSet) : CharSet :=
  if Flag.ignoreCase ∈ flags then
    if Flag.unicode ∈ flags then Unicode.foldCase s else foldAscii s
  else s

/-- A set that may be described under some flags: without the flag for Unicode, it holds ASCII
characters alone. -/
def checked (flags : Flags) (s : CharSet) : Except Flaw CharSet :=
  if Flag.unicode ∈ flags || s.isAscii then .ok s else .error .notUtf8

/-- A set or its opposite, together with what is taken for its characters. -/
def foldedIf (flags : Flags) (negated : Bool) (s : CharSet) : Except Flaw CharSet :=
  checked flags ((fold flags s).oppositeIf negated)

end Class

/-- The words by which a property of characters is asked for: the property, and its value if one is
given. -/
structure PropertyName where
  property : List Char
  value : Option (List Char)

/-- The set that a property stands for. -/
def PropertyName.set (n : PropertyName) : Except Flaw CharSet :=
  let found := match n.value with
    | none => Unicode.Property.find n.property
    | some value => Unicode.Property.findValue n.property value
  found.mapError fun
    | .property => .propertyUnknown
    | .value => .propertyValueUnknown

end Dealias.Regex
