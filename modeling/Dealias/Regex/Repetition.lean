import Dealias.Regex.Cursor

/-!
# Signs of repetition

How often the piece in front of a sign is repeated: an asterisk, a plus sign, a question mark, or
numbers in braces.  A question mark behind the sign prefers few rounds.
-/

namespace Dealias.Regex

/-- How often something is repeated. -/
structure Repetition where
  least : Nat
  most : Option Nat
  /-- Are many rounds preferred? -/
  greedy : Bool
  deriving DecidableEq

namespace Repetition

/-- A repetition whose sign ends here, with a question mark behind it or without one. -/
def ended (least : Nat) (most : Option Nat) (c : Cursor) : Repetition × Cursor :=
  if c.char? = some '?' then (⟨least, most, false⟩, c.step) else (⟨least, most, true⟩, c)

/-- The largest number in braces. -/
def numberLimit : Nat := 0xFFFFFFFF

/-- A decimal number, with white space around it.  What is wrong with it is told only if it is
asked for. -/
def readNumber (c : Cursor) : Except Problem Nat × Cursor :=
  let (_, c) := c.takeWhile Text.isBlank
  let (digits, d) := c.takeWhile Char.isDigit
  let (_, behind) := d.takeWhile Text.isBlank
  let n := digits.foldl (fun n a => 10 * n + (a.toNat - '0'.toNat)) 0
  let number :=
    if digits = [] then Cursor.fail .countEmpty (c.upTo d)
    else if numberLimit < n then Cursor.fail .numberInvalid (c.upTo d)
    else .ok n
  (number, behind)

/-- The number or numbers in braces, up to the closing one. -/
def readBounds (start : Cursor) : Except Problem (Nat × Option Nat × Cursor) := do
  let c := start.next
  if c.atEnd then Cursor.fail .countUnclosed (start.upTo c)
  let (first, c) := readNumber c
  if c.atEnd then Cursor.fail .countUnclosed (start.upTo c)
  if c.char? = some ',' then
    let c := c.next
    if c.atEnd then Cursor.fail .countUnclosed (start.upTo c)
    let least ← first
    if c.char? = some '\x7d' then return (least, none, c)
    let (last, c) := readNumber c
    return (least, some (← last), c)
  else
    let exactly ← first
    return (exactly, some exactly, c)

/-- A repetition by numbers in braces. -/
def readCounted (start : Cursor) : Except Problem (Repetition × Cursor) := do
  let (least, most, c) ← readBounds start
  if c.char? ≠ some '\x7d' then Cursor.fail .countUnclosed (start.upTo c)
  let (repetition, behind) := ended least most c.next
  if most.any (· < least) then Cursor.fail .countInvalid (start.upTo behind)
  return (repetition, behind)

/-- The repetition whose sign comes next, if one does. -/
def read? (c : Cursor) : Option (Except Problem (Repetition × Cursor)) :=
  match c.char? with
  | some '?' => some (.ok (ended 0 (some 1) c.step))
  | some '*' => some (.ok (ended 0 none c.step))
  | some '+' => some (.ok (ended 1 none c.step))
  | some '\x7b' => some (readCounted c)
  | _ => none

end Repetition

end Dealias.Regex
