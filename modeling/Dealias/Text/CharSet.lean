/-!
# Sets of characters

A set of characters is kept as the ranges of their numbers, in order, so that the letters of all
scripts are as easy to put together as the letters of one.

The numbers from `firstSurrogate` to `lastSurrogate` stand for no character.  They are passed over
where a set ends just below them or begins just above them.
-/

namespace Dealias.Text

/-- The numbers from the first one to the second one. -/
abbrev NumberRange := Nat × Nat

/-- A set of characters, as ranges of their numbers: in order, and no two of them touch. -/
structure CharSet where
  ranges : List NumberRange
  deriving DecidableEq

namespace CharSet

/-- The largest number of a character. -/
def lastNumber : Nat := 0x10FFFF

/-- The first of the numbers that stand for no character. -/
def firstSurrogate : Nat := 0xD800

/-- The last of the numbers that stand for no character. -/
def lastSurrogate : Nat := 0xDFFF

/-- The number of the next character. -/
def numberAfter (n : Nat) : Nat :=
  if n + 1 = firstSurrogate then lastSurrogate + 1 else n + 1

/-- The number of the character before. -/
def numberBefore (n : Nat) : Nat :=
  if n = lastSurrogate + 1 then firstSurrogate - 1 else n - 1

/-- No character. -/
def nothing : CharSet := ⟨[]⟩

/-- Every character. -/
def all : CharSet := ⟨[(0, lastNumber)]⟩

/-- The characters of ASCII. -/
def ascii : CharSet := ⟨[(0, 0x7F)]⟩

/-- Puts a range behind others, of which the last one comes first here, and which begin no later
than it does. -/
def push (done : List NumberRange) (range : NumberRange) : List NumberRange :=
  match done with
  | [] => [range]
  | last :: others =>
    if range.1 ≤ last.2 + 1 then (last.1, max last.2 range.2) :: others else range :: last :: others

/-- Ranges in the order of where they begin, with those put into one that overlap or touch. -/
def join (ranges : List NumberRange) : CharSet :=
  ⟨(ranges.foldl push []).reverse⟩

/-- The characters in some ranges, which may come in any order and overlap. -/
def ofRanges (ranges : List NumberRange) : CharSet :=
  join (ranges.mergeSort fun r s => r.1 ≤ s.1)

/-- The characters from one to another. -/
def range (first last : Char) : CharSet := ⟨[(first.toNat, last.toNat)]⟩

/-- One character. -/
def char (c : Char) : CharSet := range c c

/-- Some characters. -/
def ofList (cs : List Char) : CharSet := ofRanges (cs.map fun c => (c.toNat, c.toNat))

/-- Every second number of a range, from the first one on. -/
def everySecond (range : NumberRange) : List NumberRange :=
  (List.range ((range.2 - range.1) / 2 + 1)).map fun i => (range.1 + 2 * i, range.1 + 2 * i)

/-- The characters in some ranges, together with every second one in others, such as the capital
letters where each is followed by its small letter. -/
def table (ranges alternating : List NumberRange) : CharSet :=
  ofRanges (ranges ++ alternating.flatMap everySecond)

/-- Is a character in the set? -/
def contains (s : CharSet) (c : Char) : Bool :=
  (s.ranges.find? fun r => c.toNat ≤ r.2).any fun r => r.1 ≤ c.toNat

/-- What either of two sets holds. -/
def union (s t : CharSet) : CharSet :=
  join (s.ranges.merge t.ranges fun r q => r.1 ≤ q.1)

/-- What any of some sets holds. -/
def unions (sets : List CharSet) : CharSet :=
  ofRanges (sets.flatMap ranges)

/-- What two lists of ranges have in common. -/
def common : List NumberRange → List NumberRange → List NumberRange
  | [], _ => []
  | _, [] => []
  | r :: rs, q :: qs =>
    let rest := if r.2 < q.2 then common rs (q :: qs) else common (r :: rs) qs
    if max r.1 q.1 ≤ min r.2 q.2 then (max r.1 q.1, min r.2 q.2) :: rest else rest
termination_by rs qs => rs.length + qs.length

/-- What both of two sets hold. -/
def inter (s t : CharSet) : CharSet := ⟨common s.ranges t.ranges⟩

/-- The gaps behind a range and between the ranges that follow it. -/
def gapsFrom (range : NumberRange) : List NumberRange → List NumberRange
  | [] => if range.2 < lastNumber then [(numberAfter range.2, lastNumber)] else []
  | next :: rest => (numberAfter range.2, numberBefore next.1) :: gapsFrom next rest

/-- The gaps in front of, between and behind the ranges of a set.  A gap that no character is left
in, because all its numbers are surrogates, ends before it begins. -/
def gaps (s : CharSet) : List NumberRange :=
  match s.ranges with
  | [] => [(0, lastNumber)]
  | range :: rest =>
    (if 0 < range.1 then [(0, numberBefore range.1)] else []) ++ gapsFrom range rest

/-- What a set does not hold. -/
def others (s : CharSet) : CharSet :=
  ⟨s.gaps.filter fun gap => gap.1 ≤ gap.2⟩

/-- The opposite of a set: what it does not hold, except that a gap without characters is taken for
the two characters around it. -/
def opposite (s : CharSet) : CharSet :=
  ⟨s.gaps.map fun gap => if gap.1 ≤ gap.2 then gap else (gap.2, gap.1)⟩

/-- The opposite, if asked for. -/
def oppositeIf (negated : Bool) (s : CharSet) : CharSet :=
  if negated then s.opposite else s

/-- What one set holds and another does not. -/
def diff (s t : CharSet) : CharSet := s.inter t.others

/-- What exactly one of two sets holds. -/
def symmDiff (s t : CharSet) : CharSet := (s.union t).diff (s.inter t)

/-- Does a set hold ASCII characters only? -/
def isAscii (s : CharSet) : Bool :=
  s.ranges.all fun r => r.2 < 0x80

/-- The only character of a set, if it has one only. -/
def single? (s : CharSet) : Option Char :=
  match s.ranges with
  | [r] => if r.1 = r.2 then some (Char.ofNat r.1) else none
  | _ => none

/-- How many numbers a set has. -/
def size (s : CharSet) : Nat :=
  s.ranges.foldl (fun n r => n + (r.2 + 1 - r.1)) 0

end CharSet

end Dealias.Text
