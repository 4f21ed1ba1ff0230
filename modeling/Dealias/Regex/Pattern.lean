import Dealias.Regex.Bracket
import Dealias.Regex.Openings
import Dealias.Regex.Repetition
import Dealias.Regex.Simplified

/-!
# Patterns

A pattern is the written form of a regular expression.  `ofPattern` reads one; a pattern is refused
if it is not well formed, or if it would be too large once it is made ready for matching.

Reading goes from left to right and keeps the groups that are open.  Each `Level` holds what was
read in one group; the pattern as a whole is a level too, the only one that no parenthesis opened.
-/

namespace Dealias.Regex

/-- A piece of a pattern. -/
structure Piece where
  regex : Regex
  span : Span
  outline : Outline
  /-- Can it be repeated?  Flags alone cannot. -/
  repeatable : Bool

namespace Piece

/-- The piece without characters. -/
def nothing (span : Span) : Piece := ⟨empty, span, [], true⟩

/-- The outline of pieces side by side. -/
def outlines (pieces : List Piece) : Outline :=
  pieces.foldl (fun done p => done.beside p.outline) []

/-- Pieces in a row.  One alone is not nested deeper by that. -/
def inRow (span : Span) : List Piece → Piece
  | [] => nothing span
  | [only] => only
  | pieces => ⟨.row (pieces.map regex), span, span :: outlines pieces, true⟩

/-- Pieces of which one is to be found.  One alone is not nested deeper by that. -/
def inChoice (span : Span) : List Piece → Piece
  | [] => nothing span
  | [only] => only
  | pieces => ⟨.choice (pieces.map regex), span, span :: outlines pieces, true⟩

/-- A piece in parentheses, which is remembered by a number if one is given. -/
def inGroup (span : Span) (number : Option Nat) (p : Piece) : Piece :=
  ⟨number.elim p.regex fun n => .group n p.regex, span, span :: p.outline, true⟩

/-- A piece repeated under some flags. -/
def repeated (flags : Flags) (stop : Position) (r : Repetition) (p : Piece) : Piece :=
  let span : Span := ⟨p.span.start, stop⟩
  let greedy := r.greedy != (Flag.swapGreed ∈ flags : Bool)
  ⟨.times p.regex r.least r.most greedy, span, span :: p.outline, true⟩

/-- One character under some flags. -/
def letter (flags : Flags) (c : Char) : Regex :=
  let set := Class.fold flags (.char c)
  if set = .char c then .text [c] else .one set (Flag.unicode ∉ flags)

/-- The piece of an atom, and the problem with it under some flags. -/
def ofAtom (flags : Flags) (span : Span) (atom : Atom) : Piece × Option Problem :=
  let (set, problem) : Text.CharSet × Option Problem := match atom.set flags with
    | .ok set => (set, none)
    | .error flaw => (.nothing, some ⟨flaw, span, none⟩)
  let regex := match atom, atom.look? flags with
    | .char c _, _ => letter flags c
    | _, some test => .look test
    | _, none => .one set (Flag.unicode ∉ flags)
  (⟨regex, span, [], true⟩, problem)

end Piece

/-- What was read in a group, or in the whole pattern. -/
structure Level where
  /-- The parenthesis that opened the group. -/
  opened : Option Span
  /-- The number by which the group is remembered, if it is. -/
  number : Option Nat
  /-- The flags that hold again behind the group. -/
  outside : Flags
  /-- The branches that are finished, the last one first. -/
  branches : List Piece
  /-- The pieces of the branch that is not finished, the last one first. -/
  pieces : List Piece
  start : Position
  branchStart : Position

namespace Level

/-- A level of which nothing was read yet. -/
def fresh (opened : Option Span) (number : Option Nat) (outside : Flags) (start : Position) :
    Level :=
  ⟨opened, number, outside, [], [], start, start⟩

/-- One piece more. -/
def push (level : Level) (p : Piece) : Level :=
  { level with pieces := p :: level.pieces }

/-- The last branch, as it ends at a place. -/
def branch (level : Level) (stop : Position) : Piece :=
  .inRow ⟨level.branchStart, stop⟩ level.pieces.reverse

/-- Begins a new branch behind a bar. -/
def divide (level : Level) (bar : Cursor) : Level :=
  { level with
    branches := level.branch bar.position :: level.branches
    pieces := []
    branchStart := bar.step.position }

/-- All that was read, as it ends at a place. -/
def piece (level : Level) (stop : Position) : Piece :=
  .inChoice ⟨level.start, stop⟩ (level.branch stop :: level.branches).reverse

end Level

/-- A state of reading. -/
structure Reading where
  flags : Flags
  /-- The levels around the innermost one. -/
  around : List Level
  level : Level
  /-- How many groups are remembered. -/
  groups : Nat
  /-- The names of groups, and where they are given. -/
  names : List (List Char × Span)
  /-- The first problem that shows only once the pattern is known to be well formed. -/
  problem : Option Problem
  cursor : Cursor

namespace Reading

/-- Goes on at a cursor under some flags. -/
def goOn (r : Reading) (flags : Flags) (c : Cursor) : Reading :=
  { r with flags := flags, cursor := { c with loose := Flag.loose ∈ flags } }

/-- Takes note of a problem, unless there is one already. -/
def note (r : Reading) (problem : Option Problem) : Reading :=
  { r with problem := r.problem.or problem }

/-- Takes a piece and goes on behind it. -/
def push (r : Reading) (p : Piece) (c : Cursor) : Reading :=
  { r with level := r.level.push p, cursor := c }

/-- Goes into a group whose parenthesis stands at `start`. -/
def enter (r : Reading) (start : Cursor) (number : Option Nat) (flags : Flags) (c : Cursor) :
    Reading :=
  { r.goOn flags c with
    around := r.level :: r.around
    level := .fresh (some start.charSpan) number r.flags c.position }

/-- Goes into a group that is remembered. -/
def enterRemembered (r : Reading) (start c : Cursor) : Reading :=
  { r.enter start (some (r.groups + 1)) r.flags c with groups := r.groups + 1 }

/-- The letters of alphabets. -/
def nameLetters : Text.CharSet := Unicode.alphabetic.union Unicode.laterLetter

/-- Letters and numbers. -/
def nameCharacters : Text.CharSet :=
  .unions [nameLetters, Unicode.Category.number, Unicode.laterNumber]

/-- Is a character allowed in the name of a group? -/
def inName (first : Bool) (c : Char) : Bool :=
  if first then c = '_' || nameLetters.contains c
  else c = '_' || c = '.' || c = '[' || c = ']' || nameCharacters.contains c

/-- The name of a group, up to the angle bracket that closes it. -/
def readName (c : Cursor) : Except Problem (List Char × Cursor) := do
  if c.atEnd then Cursor.fail .groupNameUnclosed c.here
  let plain := { c with loose := false }
  let (head, d) := if plain.char?.any (inName true) then (plain.char?.toList, plain.step)
    else ([], plain)
  let (more, d) := if head = [] then ([], d) else d.takeWhile (inName false)
  match d.char? with
  | none => Cursor.fail .groupNameUnclosed d.here
  | some '>' =>
    if head = [] then Cursor.fail .groupNameEmpty c.here
    else return (head ++ more, { d.step with loose := c.loose })
  | some _ => Cursor.fail .groupNameInvalid d.charSpan

/-- Reads the beginning of a group with a name; `c` stands in front of the name. -/
def enterNamed (r : Reading) (start c : Cursor) : Except Problem Reading := do
  let (name, behind) ← readName c
  let span : Span := ⟨c.position, ⟨c.position.line, c.position.column + name.length⟩⟩
  match r.names.find? fun earlier => earlier.1 = name with
  | some (_, earlier) => throw ⟨.groupNameDuplicate, span, some earlier⟩
  | none => return { r.enterRemembered start behind with names := (name, span) :: r.names }

/-- Reads flags, which hold in a group or, without one, up to the end of the group around them. -/
def enterFlagged (r : Reading) (start mark : Cursor) : Except Problem Reading := do
  let c := mark.step
  if c.atEnd then Cursor.fail .groupUnclosed start.charSpan
  let (items, d) ← FlagItem.read c
  let flags := r.flags.change items
  if d.char? = some ':' then return r.enter start none flags d.step
  if items = [] then Cursor.fail .repetitionMissing mark.here
  let span := start.upTo d.step
  return (r.push ⟨empty, span, [], false⟩ d.step).goOn flags d.step

/-- Reads the beginning of a group, or flags. -/
def readOpening (r : Reading) : Except Problem Reading := do
  let start := r.cursor
  let c := start.next
  if let some d := ["?=", "?!", "?<=", "?<!"].findSome? c.over? then
    Cursor.fail .lookAround (start.upTo d)
  match (c.over? "?P<").or (c.over? "?<") with
  | some d => r.enterNamed start d
  | none =>
    if c.char? = some '?' then r.enterFlagged start c
    else return r.enterRemembered start c

/-- Reads the end of a group. -/
def readClosing (r : Reading) : Except Problem Reading :=
  let c := r.cursor
  match r.level.opened, r.around with
  | some opened, outer :: around =>
    let span : Span := ⟨opened.start, c.step.position⟩
    let level := outer.push (.inGroup span r.level.number (r.level.piece c.position))
    .ok ({ r with level := level, around := around }.goOn r.level.outside c.step)
  | _, _ => Cursor.fail .groupUnopened c.charSpan

/-- Repeats the last piece. -/
def repeatLast (r : Reading) (sign : Except Problem (Repetition × Cursor)) :
    Except Problem Reading := do
  match r.level.pieces with
  | last :: pieces =>
    if ¬ last.repeatable then Cursor.fail .repetitionMissing r.cursor.here
    let (repetition, c) ← sign
    let level := { r.level with pieces := last.repeated r.flags c.position repetition :: pieces }
    return { r with level := level, cursor := c }
  | [] => Cursor.fail .repetitionMissing r.cursor.here

/-- Reads a set in brackets. -/
def readBracket (r : Reading) : Except Problem Reading := do
  let (delayed, c) ← Bracket.read r.flags r.cursor
  let part := delayed.value
  let piece : Piece := ⟨.one part.set (Flag.unicode ∉ r.flags), part.span, part.outline, true⟩
  return (r.push piece c).note delayed.problem

/-- Reads an atom. -/
def readAtom (r : Reading) (a : Char) : Except Problem Reading := do
  let c := r.cursor
  let (atom, behind) ← match a with
    | '\\' => Escape.read c
    | '.' => pure (.dot, c.step)
    | '^' => pure (.caret, c.step)
    | '$' => pure (.dollar, c.step)
    | _ => pure (.char a false, c.step)
  let (piece, problem) := Piece.ofAtom r.flags (c.upTo behind) atom
  return (r.push piece behind).note problem

/-- Reads the next part of the pattern, which starts with the character `a`. -/
def advance (r : Reading) (a : Char) : Except Problem Reading :=
  match a, Repetition.read? r.cursor with
  | _, some sign => r.repeatLast sign
  | '(', none => r.readOpening
  | ')', none => r.readClosing
  | '|', none => .ok { r with level := r.level.divide r.cursor, cursor := r.cursor.step }
  | '[', none => r.readBracket
  | _, none => r.readAtom a

/-- Reads up to the end, in at most `fuel` rounds, each of which goes on over a character at
least. -/
def readAll : (fuel : Nat) → Reading → Except Problem Reading
  | 0, r => .ok r
  | fuel + 1, r =>
    let r := { r with cursor := r.cursor.skip }
    match r.cursor.char? with
    | none => .ok r
    | some a => do readAll fuel (← r.advance a)

/-- In front of a pattern. -/
def ofPattern (pattern : List Char) : Reading :=
  ⟨.initial, [], .fresh none none .initial .start, 0, [], none, .ofPattern pattern⟩

end Reading

/-- How deep a pattern may be nested. -/
def depthLimit : Nat := 250

/-- Why a pattern is refused. -/
inductive Refusal
  | problem (p : Problem)
  | tooLarge
  deriving DecidableEq

/-- How the refusal of a pattern is told. -/
def Refusal.message (pattern : List Char) : Refusal → String
  | problem p => p.report pattern
  | tooLarge => s!"Compiled regex exceeds size limit of {Weight.limit} bytes."

/-- Reads a pattern as one piece. -/
def Piece.ofPattern (pattern : List Char) : Except Problem Piece := do
  let r ← (Reading.ofPattern pattern).readAll (pattern.length + 1)
  if let some opened := r.level.opened then Cursor.fail .groupUnclosed opened
  let piece := r.level.piece r.cursor.position
  if let some span := piece.outline[depthLimit]? then Cursor.fail (.tooDeep depthLimit) span
  match r.problem with
  | some problem => throw problem
  | none => return piece

/-- The regular expression that a pattern describes. -/
def ofPattern (pattern : List Char) : Except Refusal Regex :=
  match Piece.ofPattern pattern with
  | .error problem => .error (.problem problem)
  | .ok piece =>
    let r := piece.regex.simplified
    if !r.isWords && r.tooLarge then .error .tooLarge else .ok r

end Dealias.Regex
