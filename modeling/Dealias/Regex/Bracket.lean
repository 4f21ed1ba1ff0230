import Dealias.Regex.Escape

/-!
# Sets of characters in brackets

Between brackets stand characters, ranges, sets with a name and brackets again, which are put
together; two ampersands, hyphens or tildes between such lists intersect or subtract them, from left
to right.  A closing bracket that comes first, and hyphens that do, stand for themselves.

`Open` is what is known of a bracket that is not closed yet.  Brackets inside of it are read with a
stack of them, so the innermost one that stays open can be pointed at.
-/

namespace Dealias.Regex

open Text

/-- The first part of a pattern at each depth of nesting. -/
abbrev Outline := List Span

/-- The outline of two parts side by side, the left one first. -/
def Outline.beside : Outline → Outline → Outline
  | [], right => right
  | left, [] => left
  | first :: left, _ :: right => first :: beside left right

/-- What reading came to: a value, and the first problem that shows only once the whole pattern is
known to be well formed. -/
structure Delayed (α : Type) where
  value : α
  problem : Option Problem

namespace Bracket

/-- What is read in brackets: the set, where it stands, and how deep it is nested. -/
structure Part where
  set : CharSet
  span : Span
  outline : Outline

/-- A list of parts that are put together.  The ranges of small sets are collected first, because
putting them together one by one takes long where there are many. -/
structure Items where
  ranges : List NumberRange
  /-- What the other sets hold. -/
  wide : CharSet
  span : Span
  outline : Outline
  count : Nat

namespace Items

/-- The most ranges of a set that are collected. -/
def collected : Nat := 8

/-- No parts, at a place. -/
def none (at_ : Span) : Items := ⟨[], .nothing, at_, [], 0⟩

/-- What the parts hold together. -/
def set (items : Items) : CharSet := (CharSet.ofRanges items.ranges).union items.wide

/-- One part more. -/
def push (items : Items) (part : Part) : Items where
  ranges :=
    if part.set.ranges.length ≤ collected then part.set.ranges ++ items.ranges else items.ranges
  wide := if part.set.ranges.length ≤ collected then items.wide else items.wide.union part.set
  span := ⟨if items.count = 0 then part.span.start else items.span.start, part.span.stop⟩
  outline := items.outline.beside part.outline
  count := items.count + 1

/-- The parts as one.  A single one is not nested deeper by that. -/
def part (items : Items) : Part :=
  ⟨items.set, items.span,
    if items.count ≤ 1 then items.outline else items.span :: items.outline⟩

end Items

/-- How two lists are put together. -/
inductive Operator
  | inter | diff | symmDiff

/-- The set that an operator makes of two. -/
def Operator.apply : Operator → CharSet → CharSet → CharSet
  | inter => .inter
  | diff => .diff
  | symmDiff => .symmDiff

/-- The operator whose sign comes next. -/
def operator? (c : Cursor) : Option Operator :=
  match c.rest with
  | '&' :: '&' :: _ => some .inter
  | '-' :: '-' :: _ => some .diff
  | '~' :: '~' :: _ => some .symmDiff
  | _ => none

/-- A bracket that is not closed yet. -/
structure Open where
  /-- Where it was opened. -/
  opening : Span
  negated : Bool
  /-- The parts in front of it in the bracket around it. -/
  outer : Items
  /-- What stands in front of the last operator in it. -/
  left : Option (Part × Operator)

/-- A state of reading: the brackets that are open, the innermost first, and the parts behind the
last operator in that one. -/
structure State where
  stack : List Open
  items : Items
  problem : Option Problem
  cursor : Cursor

/-- Takes note of a problem, unless there is one already. -/
def State.note (s : State) (flaw : Flaw) (span : Span) : State :=
  { s with problem := s.problem.or (some ⟨flaw, span, Option.none⟩) }

/-- Takes a set or notes why it cannot be had. -/
def State.take (s : State) (span : Span) : Except Flaw CharSet → CharSet × State
  | .ok set => (set, s)
  | .error flaw => (.nothing, s.note flaw span)

/-- The problem of a pattern that ends inside of a bracket. -/
def unclosed {α : Type} (stack : List Open) (c : Cursor) : Except Problem α :=
  Cursor.fail .classUnclosed <| match stack with
    | [] => c.here
    | bracket :: _ => bracket.opening

/-- Hyphens at the start of a bracket, which opened at `start`. -/
def hyphens (start : Cursor) (items : Items) (c : Cursor) : Except Problem (Items × Cursor) :=
  match _h : c.rest with
  | '-' :: _ =>
    if c.next.atEnd then Cursor.fail .classUnclosed start.here
    else hyphens start (items.push ⟨.char '-', c.charSpan, []⟩) c.next
  | _ => .ok (items, c)
termination_by c.rest.length
decreasing_by exact Cursor.next_length _h

/-- Opens a bracket. -/
def enter (s : State) : Except Problem State := do
  let start := s.cursor
  let c := start.next
  if c.atEnd then Cursor.fail .classUnclosed (start.upTo c)
  let negated := c.char? = some '^'
  let c := if negated then c.next else c
  if c.atEnd then Cursor.fail .classUnclosed (start.upTo c)
  let (items, c) ← hyphens start (.none c.here) c
  let first := items.count = 0 ∧ c.char? = some ']'
  let items := if first then items.push ⟨.char ']', c.charSpan, []⟩ else items
  let c := if first then c.next else c
  if c.atEnd then Cursor.fail .classUnclosed (start.upTo c)
  return { s with
    stack := ⟨start.upTo c, negated, s.items, none⟩ :: s.stack
    items := items
    cursor := c }

/-- What stands in a bracket, up to here. -/
def content (flags : Flags) (bracket : Open) (items : Items) : Part :=
  let right := items.part
  match bracket.left with
  | none => right
  | some (left, operator) =>
    let span : Span := ⟨left.span.start, right.span.stop⟩
    ⟨operator.apply (Class.fold flags left.set) (Class.fold flags right.set), span,
      span :: left.outline.beside right.outline⟩

/-- Reads the sign of an operator, of two characters. -/
def divide (flags : Flags) (operator : Operator) (s : State) : State :=
  let c := s.cursor.step.step
  match s.stack with
  | [] => { s with cursor := c }
  | bracket :: stack =>
    let left := content flags bracket s.items
    { s with
      stack := { bracket with left := some (left, operator) } :: stack
      items := .none c.here
      cursor := c }

/-- Closes the innermost bracket: either all is closed, or reading goes on around it. -/
def leave (flags : Flags) (s : State) (bracket : Open) (stack : List Open) : Part × State :=
  let inner := content flags bracket s.items
  let c := s.cursor.step
  let span : Span := ⟨bracket.opening.start, c.position⟩
  let (set, s) := s.take span (Class.foldedIf flags bracket.negated inner.set)
  let part : Part := ⟨set, span, span :: inner.outline⟩
  (part, { s with stack := stack, items := bracket.outer.push part, cursor := c })

/-- A set with a name between `[:` and `:]`, if that is what comes next. -/
def readNamed? (c : Cursor) : Option (String × Bool × Cursor) := do
  let inside ← c.over? "[:"
  let negated := inside.char? = some '^'
  let inside := if negated then inside.step else inside
  let name := inside.rest.takeWhile (· ≠ ':')
  let behind := name.foldl (fun d _ => d.step) inside
  let behind ← behind.over? ":]"
  let _ ← Class.named? (String.ofList name)
  return (String.ofList name, negated, behind)

/-- One character or escape in a bracket. -/
def readAtom (c : Cursor) : Except Problem (Atom × Cursor) :=
  match c.char? with
  | some '\\' => Escape.read c
  | some a => .ok (.char a false, c.step)
  | none => Cursor.fail .escapeUnfinished c.here

/-- The character that bounds a range. -/
def bound (atom : Atom) (span : Span) : Except Problem Char :=
  match atom with
  | .char a _ => .ok a
  | _ => Cursor.fail .classBoundInvalid span

/-- Takes note of a character beyond ASCII where the flag for Unicode is off. -/
def State.checkChar (flags : Flags) (s : State) (atom : Atom) (span : Span) : State :=
  match atom with
  | .char a short =>
    if Flag.unicode ∉ flags ∧ 0x80 ≤ a.toNat then
      s.note (if short then .notUtf8 else .unicodeExcluded) span
    else s
  | _ => s

/-- Reads a character, an escape or a range. -/
def readItem (flags : Flags) (s : State) : Except Problem State := do
  let start := s.cursor
  let (atom, behind) ← readAtom start
  let span := start.upTo behind
  let c := behind.skip
  if c.atEnd then unclosed s.stack c
  if c.char? = some '-' ∧ c.beyond? ≠ some ']' ∧ c.beyond? ≠ some '-' then
    let c := c.next
    if c.atEnd then unclosed s.stack c
    let (last, behind) ← readAtom c
    let first ← bound atom span
    let final ← bound last (c.upTo behind)
    let whole := start.upTo behind
    if final < first then Cursor.fail .classRangeInvalid whole
    let s := (s.checkChar flags atom span).checkChar flags last (c.upTo behind)
    return { s with items := s.items.push ⟨.range first final, whole, []⟩, cursor := behind }
  else
    if (atom.look? flags).isSome then Cursor.fail .classEscapeInvalid span
    let s := s.checkChar flags atom span
    let (set, s) := s.take span (atom.set flags)
    return { s with items := s.items.push ⟨set, span, []⟩, cursor := c }

/-- Reads up to the end of the outermost bracket, in at most `fuel` rounds, each of which goes on
over a character at least. -/
def readAll (flags : Flags) : (fuel : Nat) → State → Except Problem (Delayed Part × Cursor)
  | 0, s => unclosed s.stack s.cursor
  | fuel + 1, s => do
    let s := { s with cursor := s.cursor.skip }
    match s.cursor.char?, s.stack with
    | none, _ => unclosed s.stack s.cursor
    | some '[', _ =>
      match readNamed? s.cursor with
      | some (name, negated, behind) =>
        let span := s.cursor.upTo behind
        let named := (Class.named? name).getD .nothing
        let (set, s) := s.take span (Class.foldedIf flags negated named)
        readAll flags fuel
          { s with items := s.items.push ⟨set, span, []⟩, cursor := behind }
      | none => readAll flags fuel (← enter s)
    | some ']', bracket :: stack =>
      let (part, s) := leave flags s bracket stack
      if stack.isEmpty then return (⟨part, s.problem⟩, s.cursor)
      else readAll flags fuel s
    | some _, _ =>
      match operator? s.cursor with
      | some operator => readAll flags fuel (divide flags operator s)
      | none => readAll flags fuel (← readItem flags s)

/-- The set that is described in brackets. -/
def read (flags : Flags) (c : Cursor) : Except Problem (Delayed Part × Cursor) := do
  let s ← enter ⟨[], .none c.here, none, c⟩
  readAll flags (s.cursor.rest.length + 1) s

end Bracket

end Dealias.Regex
