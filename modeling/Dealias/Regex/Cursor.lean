import Dealias.Regex.Problem
import Dealias.Text.Blank

/-!
# Reading a pattern from left to right

A cursor stands in front of the characters of a pattern that are still to be read.  Where the
pattern is written loosely, white space and comments between its parts are passed over; a comment
goes from a hash sign to the end of the line.
-/

namespace Dealias.Regex

/-- A reader of a pattern. -/
structure Cursor where
  rest : List Char
  position : Position
  /-- Are white space and comments passed over? -/
  loose : Bool

namespace Cursor

/-- In front of a pattern. -/
def ofPattern (pattern : List Char) : Cursor := ⟨pattern, .start, false⟩

/-- The character that comes next. -/
def char? (c : Cursor) : Option Char := c.rest.head?

/-- Is nothing left? -/
def atEnd (c : Cursor) : Bool := c.rest.isEmpty

/-- Goes on over one character. -/
def step (c : Cursor) : Cursor :=
  match c.rest with
  | [] => c
  | a :: rest => ⟨rest, c.position.after a, c.loose⟩

/-- The place and the characters behind white space and comments. -/
def skipFrom : (inComment : Bool) → Position → List Char → Position × List Char
  | _, p, [] => (p, [])
  | true, p, a :: rest => skipFrom (a ≠ '\n') (p.after a) rest
  | false, p, a :: rest =>
    if Text.isBlank a then skipFrom false (p.after a) rest
    else if a = '#' then skipFrom true (p.after a) rest
    else (p, a :: rest)

/-- Goes on over what is passed over here. -/
def skip (c : Cursor) : Cursor :=
  if c.loose then
    let (position, rest) := skipFrom false c.position c.rest
    ⟨rest, position, true⟩
  else c

/-- Goes on over one character and what is passed over behind it. -/
def next (c : Cursor) : Cursor := c.step.skip

/-- The character that stands out behind the next one.  Where the pattern is loose, white space and
a hash sign do not stand out, as long as something else is left. -/
def beyond? (c : Cursor) : Option Char :=
  let behind := c.step.rest
  if c.loose then
    let shown := behind.dropWhile Text.isBlank
    let shown := if shown.head? = some '#' then shown.tail.dropWhile Text.isBlank else shown
    shown.head?.or behind.head?
  else behind.head?

/-- The part of the pattern from here to another cursor. -/
def upTo (c d : Cursor) : Span := ⟨c.position, d.position⟩

/-- The empty part here. -/
def here (c : Cursor) : Span := c.upTo c

/-- The next character. -/
def charSpan (c : Cursor) : Span := c.upTo c.step

/-- Goes on over a word, if it comes next. -/
def over? (c : Cursor) (word : String) : Option Cursor :=
  if word.toList.isPrefixOf c.rest then some (word.toList.foldl (fun d _ => d.step) c) else none

/-- Nothing is added by passing over white space. -/
theorem skipFrom_length (inComment : Bool) (p : Position) (cs : List Char) :
    (skipFrom inComment p cs).2.length ≤ cs.length := by
  induction cs generalizing inComment p with
  | nil => simp [skipFrom]
  | cons a rest ih =>
    cases inComment with
    | true => exact Nat.le_succ_of_le (ih _ _)
    | false =>
      unfold skipFrom
      split
      · exact Nat.le_succ_of_le (ih _ _)
      · split
        · exact Nat.le_succ_of_le (ih _ _)
        · exact Nat.le_refl _

/-- Nothing is added by going on. -/
theorem skip_length (c : Cursor) : c.skip.rest.length ≤ c.rest.length := by
  unfold skip
  split
  · exact skipFrom_length _ _ _
  · exact Nat.le_refl _

/-- Going on leaves less, if anything is left. -/
theorem next_length {c : Cursor} {a : Char} {rest : List Char} (h : c.rest = a :: rest) :
    c.next.rest.length < c.rest.length := by
  refine Nat.lt_of_le_of_lt (skip_length _) ?_
  simp [step, h]

/-- The characters up to the first that is not accepted, and the cursor in front of that one. -/
def takeWhile (accepts : Char → Bool) (c : Cursor) : List Char × Cursor :=
  match _h : c.rest with
  | [] => ([], c)
  | a :: _ =>
    if accepts a then
      let (more, d) := c.next.takeWhile accepts
      (a :: more, d)
    else ([], c)
termination_by c.rest.length
decreasing_by exact next_length _h

/-- Fails with a flaw of a part. -/
def fail {α : Type} (flaw : Flaw) (span : Span) : Except Problem α :=
  .error ⟨flaw, span, none⟩

end Cursor

end Dealias.Regex
