/-!
# JSON values and their written form

The values that the program writes, and two ways to write them: on one line without blanks, or with
a line for each member, two blanks deeper than what holds it.  In a text only the quotation mark,
the backslash and the control characters are escaped.
-/

namespace Dealias.Json

/-- A value that can be written. -/
inductive Value
  | bool (b : Bool)
  | natural (n : Nat)
  | text (s : String)
  | list (items : List Value)
  | object (members : List (String × Value))

/-- A digit in base sixteen, small letters. -/
def hexDigit (n : Nat) : Char :=
  Nat.digitChar n

/-- One character of a text, as it is written. -/
def escape (c : Char) : List Char :=
  if c = '"' then ['\\', '"']
  else if c = '\\' then ['\\', '\\']
  else if c = '\u0008' then ['\\', 'b']
  else if c = '\t' then ['\\', 't']
  else if c = '\n' then ['\\', 'n']
  else if c = '\u000c' then ['\\', 'f']
  else if c = '\r' then ['\\', 'r']
  else if c.toNat < 0x20 then
    ['\\', 'u', '0', '0', hexDigit (c.toNat / 16), hexDigit (c.toNat % 16)]
  else [c]

/-- A text in quotation marks. -/
def quote (s : String) : List Char :=
  '"' :: s.toList.flatMap escape ++ ['"']

/-- A number in decimal digits. -/
def decimal (n : Nat) : List Char :=
  Nat.toDigits 10 n

/-- A truth value. -/
def truth (b : Bool) : List Char :=
  (if b then "true" else "false").toList

/-- The start of a line that many levels deep. -/
def newline (level : Nat) : List Char :=
  '\n' :: List.replicate (2 * level) ' '

mutual

/-- A value on one line. -/
def compact : Value → List Char
  | .bool b => truth b
  | .natural n => decimal n
  | .text s => quote s
  | .list items => '[' :: compactItems items ++ [']']
  | .object members => '\x7b' :: compactMembers members ++ ['\x7d']

/-- Items with commas between them. -/
def compactItems : List Value → List Char
  | [] => []
  | [v] => compact v
  | v :: rest => compact v ++ ',' :: compactItems rest

/-- Members with commas between them. -/
def compactMembers : List (String × Value) → List Char
  | [] => []
  | [(key, v)] => quote key ++ ':' :: compact v
  | (key, v) :: rest => quote key ++ ':' :: compact v ++ ',' :: compactMembers rest

end

mutual

/-- A value over several lines, itself standing at a level. -/
def pretty (level : Nat) : Value → List Char
  | .bool b => truth b
  | .natural n => decimal n
  | .text s => quote s
  | .list [] => ['[', ']']
  | .list items => '[' :: prettyItems (level + 1) items ++ newline level ++ [']']
  | .object [] => ['\x7b', '\x7d']
  | .object members => '\x7b' :: prettyMembers (level + 1) members ++ newline level ++ ['\x7d']

/-- Items, each on a line of its own. -/
def prettyItems (level : Nat) : List Value → List Char
  | [] => []
  | [v] => newline level ++ pretty level v
  | v :: rest => newline level ++ pretty level v ++ ',' :: prettyItems level rest

/-- Members, each on a line of its own. -/
def prettyMembers (level : Nat) : List (String × Value) → List Char
  | [] => []
  | [(key, v)] => newline level ++ quote key ++ ':' :: ' ' :: pretty level v
  | (key, v) :: rest =>
    newline level ++ quote key ++ ':' :: ' ' :: pretty level v ++ ',' :: prettyMembers level rest

end

end Dealias.Json
