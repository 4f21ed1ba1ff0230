import Dealias.Regex.Cursor

/-!
# Flags

Flags change how the pattern behind them is read, up to the end of the group that they stand in.
They are letters, and those behind a minus sign are turned off.
-/

namespace Dealias.Regex

/-- What can be turned on and off. -/
inductive Flag
  /-- Case does not count. -/
  | ignoreCase
  /-- `^` and `$` stand for the ends of lines. -/
  | multiline
  /-- A dot stands for every character, the end of a line among them. -/
  | dotAll
  /-- Repetitions prefer few rounds, and many with a question mark. -/
  | swapGreed
  /-- Classes and case reach beyond ASCII. -/
  | unicode
  /-- A line may end in a return and a newline. -/
  | crlf
  /-- White space and comments are passed over. -/
  | loose
  deriving DecidableEq

/-- The flag of a letter. -/
def Flag.ofChar? (c : Char) : Option Flag :=
  match c with
  | 'i' => some .ignoreCase
  | 'm' => some .multiline
  | 's' => some .dotAll
  | 'U' => some .swapGreed
  | 'u' => some .unicode
  | 'R' => some .crlf
  | 'x' => some .loose
  | _ => none

/-- The flags that are on. -/
abbrev Flags := List Flag

/-- The flags at the start of a pattern. -/
def Flags.initial : Flags := [.unicode]

/-- The flags with one of them turned on or off. -/
def Flags.turn (flags : Flags) (flag : Flag) (on : Bool) : Flags :=
  let others := flags.filter (· ≠ flag)
  if on then flag :: others else others

/-- What can stand where flags are named: a flag, or the minus sign (`none`). -/
abbrev FlagItem := Option Flag

namespace FlagItem

/-- The item of a character. -/
def ofChar (c : Cursor) (a : Char) : Except Problem FlagItem :=
  if a = '-' then .ok none
  else
    match Flag.ofChar? a with
    | some flag => .ok (some flag)
    | none => Cursor.fail .flagUnknown c.charSpan

/-- The items up to a colon or a closing parenthesis, behind those in `done`, in at most `fuel`
rounds of one character each. -/
def readAll : (fuel : Nat) → (done : List (FlagItem × Span)) → Cursor →
    Except Problem (List (FlagItem × Span) × Cursor)
  | 0, done, c => .ok (done, c)
  | fuel + 1, done, c =>
    match c.char? with
    | none | some ':' | some ')' => .ok (done, c)
    | some a => do
      let item ← ofChar c a
      match done.find? fun earlier => earlier.1 = item with
      | some (_, earlier) =>
        throw ⟨if item = none then .negationRepeated else .flagDuplicate, c.charSpan, some earlier⟩
      | none =>
        if c.step.atEnd then Cursor.fail .flagMissing c.step.here
        else readAll fuel (done ++ [(item, c.charSpan)]) c.step

/-- The items up to a colon or a closing parenthesis.  The last of them is no minus sign. -/
def read (c : Cursor) : Except Problem (List FlagItem × Cursor) := do
  let (items, d) ← readAll c.rest.length [] c
  match items.getLast? with
  | some (none, span) => Cursor.fail .negationDangling span
  | _ => return (items.map Prod.fst, d)

end FlagItem

/-- The flags after some items. -/
def Flags.change (flags : Flags) (items : List FlagItem) : Flags :=
  (items.foldl (fun (now, on) item =>
    match item with
    | none => (now, false)
    | some flag => (Flags.turn now flag on, on)) (flags, true)).1

end Dealias.Regex
