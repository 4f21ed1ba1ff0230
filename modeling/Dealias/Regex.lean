import Dealias.Text.CharSet

/-!
# Regular expressions

A regular expression describes stretches of a text.  Its leaves are characters, sets of characters
and tests of a position.
-/

namespace Dealias

/-- What makes up the edge of a word. -/
inductive Regex.Edge
  | boundary
  | noBoundary
  /-- No word is in front, and one is behind. -/
  | start
  /-- A word is in front, and none is behind. -/
  | stop
  /-- No word is in front. -/
  | startHalf
  /-- No word is behind. -/
  | stopHalf
  deriving DecidableEq

/-- What tests a position without going on. -/
inductive Regex.Look
  | textStart
  | textEnd
  /-- The start of a line, where a return may end one if `returns`. -/
  | lineStart (returns : Bool)
  /-- The end of a line, where a return may end one if `returns`. -/
  | lineEnd (returns : Bool)
  /-- The edge of a word, of letters beyond ASCII too if `unicode`. -/
  | edge (kind : Regex.Edge) (unicode : Bool)
  deriving DecidableEq

/-- A regular expression. -/
inductive Regex
  /-- These characters, one behind the other. -/
  | text (letters : List Char)
  /-- One character of a set.  It is `narrow` if it was described without the letters beyond ASCII
  in mind, which makes it differ from the same set with them in mind. -/
  | one (set : Text.CharSet) (narrow : Bool)
  /-- No character, at a position that passes a test. -/
  | look (test : Regex.Look)
  /-- At least `least` stretches in a row, and at most `most` if a number is given; many rather than
  few if `greedy`. -/
  | times (body : Regex) (least : Nat) (most : Option Nat) (greedy : Bool)
  /-- A stretch that is remembered by a number. -/
  | group (number : Nat) (body : Regex)
  /-- One stretch of each part, in a row. -/
  | row (parts : List Regex)
  /-- A stretch of one of the parts. -/
  | choice (parts : List Regex)

namespace Regex

/-- The stretch without characters. -/
def empty : Regex := text []

/-- No stretch at all. -/
def nothing : Regex := one .nothing true

mutual

/-- Are two expressions the same? -/
def same : Regex → Regex → Bool
  | text a, text b => a == b
  | one a n, one b m => a = b && n == m
  | look a, look b => a = b
  | times a l m g, times b k n h => l == k && m == n && g == h && same a b
  | group i a, group j b => i == j && same a b
  | row as, row bs => sameAll as bs
  | choice as, choice bs => sameAll as bs
  | _, _ => false

/-- Are two lists of expressions the same? -/
def sameAll : List Regex → List Regex → Bool
  | [], [] => true
  | a :: as, b :: bs => same a b && sameAll as bs
  | _, _ => false

end

mutual

/-- How many characters the shortest stretch has.  There is no answer if some part of the expression
describes nothing. -/
def shortest : Regex → Option Nat
  | text letters => some letters.length
  | one set _ => if set = .nothing then none else some 1
  | look _ => some 0
  | times body least _ _ => (shortest body).map (least * ·)
  | group _ body => shortest body
  | row parts => shortestRow parts 0
  | choice parts => shortestChoice parts none

/-- The same for parts in a row, behind `done` characters. -/
def shortestRow : List Regex → (done : Nat) → Option Nat
  | [], done => some done
  | part :: parts, done =>
    match shortest part with
    | none => none
    | some n => shortestRow parts (done + n)

/-- The same for one of some parts or of others, the shortest of which is `best`. -/
def shortestChoice : List Regex → (best : Option Nat) → Option Nat
  | [], best => best
  | part :: parts, best =>
    match shortest part with
    | none => none
    | some n => shortestChoice parts (some (best.elim n (min n)))

end

mutual

/-- How many characters the longest stretch has, if there is a longest one and no part describes
nothing. -/
def longest : Regex → Option Nat
  | text letters => some letters.length
  | one set _ => if set = .nothing then none else some 1
  | look _ => some 0
  | times body _ most _ => most.bind fun most => (longest body).map (most * ·)
  | group _ body => longest body
  | row parts => longestRow parts 0
  | choice parts => longestChoice parts none

/-- The same for parts in a row, behind `done` characters. -/
def longestRow : List Regex → (done : Nat) → Option Nat
  | [], done => some done
  | part :: parts, done =>
    match longest part with
    | none => none
    | some n => longestRow parts (done + n)

/-- The same for one of some parts or of others, the longest of which is `best`. -/
def longestChoice : List Regex → (best : Option Nat) → Option Nat
  | [], best => best
  | part :: parts, best =>
    match longest part with
    | none => none
    | some n => longestChoice parts (some (best.elim n (max n)))

end

end Regex

end Dealias
