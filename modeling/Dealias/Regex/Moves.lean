import Dealias.Regex
import Dealias.Unicode.Letter

/-!
# Matching

An expression is matched against a text by sets of positions: from those where a stretch may start
to those where one ends.  A set is held as a number whose bit `i` stands for the position in front of
character `i`, so that going on over a character is a doubling, and all starts are tried at once.

A repetition becomes a table of where each position leads to.  So however deep repetitions are
nested, each is followed once from each position.
-/

namespace Dealias.Regex

open Text

/-- A set of positions, as bits. -/
abbrev Places := Nat

namespace Places

/-- The set of one position. -/
def single (position : Nat) : Places := 1 <<< position

/-- The set that has the positions marked in a list. -/
def ofMarks : List Bool → Places
  | [] => 0
  | mark :: marks => 2 * ofMarks marks + if mark then 1 else 0

/-- What one set has and another does not. -/
def without (places seen : Places) : Places := places - (places &&& seen)

/-- The first position of a set that is not empty. -/
def first (places : Places) : Nat := (places ^^^ (places - 1)).log2

/-- A set without its first position. -/
def behindFirst (places : Places) : Places := places &&& (places - 1)

/-- A set gets smaller without its first position. -/
theorem behindFirst_lt {places : Places} (h : places ≠ 0) : places.behindFirst < places :=
  Nat.lt_of_le_of_lt Nat.and_le_right (Nat.sub_lt (Nat.pos_of_ne_zero h) Nat.one_pos)

end Places

/-- For each position a set of others that it leads to. -/
abbrev Leads := Array Places

namespace Leads

/-- Each of some positions leads to itself. -/
def stay (count : Nat) : Leads := (Array.range count).map .single

/-- Where the positions in a set lead to, and `ends`. -/
def follow (leads : Leads) (starts ends : Places) : Places :=
  if _h : starts = 0 then ends
  else leads.follow starts.behindFirst (ends ||| leads.getD starts.first 0)
termination_by starts
decreasing_by exact Places.behindFirst_lt _h

/-- One step behind the other. -/
def andThen (leads further : Leads) : Leads :=
  leads.map fun places => further.follow places 0

/-- A number of steps. -/
def power (leads : Leads) (n : Nat) : Leads :=
  if n = 0 then stay leads.size
  else
    let half := leads.power (n / 2)
    let even := half.andThen half
    if n % 2 = 0 then even else even.andThen leads
termination_by n

/-- What is reached by at most so many more steps from a set, the last step having led to `new`. -/
def spread (leads : Leads) : (steps : Nat) → (new reached : Places) → Places
  | 0, _, reached => reached
  | n + 1, new, reached =>
    let new := (leads.follow new 0).without reached
    if new = 0 then reached else leads.spread n new (reached ||| new)

/-- The same as `follow` where each position leads to all that can be reached from it.  So nothing
is added by a position that another one leads to. -/
def followClosed (closed : Leads) (starts ends : Places) : Places :=
  if _h : starts = 0 then ends
  else
    let ends := ends ||| closed.getD starts.first 0
    closed.followClosed (starts.behindFirst.without ends) ends
termination_by starts
decreasing_by exact Nat.lt_of_le_of_lt (Nat.sub_le _ _) (Places.behindFirst_lt _h)

/-- Any number of steps.  None leads back, so where a position leads to is found from what the
positions behind it lead to. -/
def closure (leads : Leads) : Leads :=
  (List.range leads.size).foldr (fun i closed =>
    closed.setIfInBounds i (closed.followClosed (leads.getD i 0) (.single i)))
    (Array.replicate leads.size 0)

/-- Steps, at least and at most as many as given. -/
def repeated (leads : Leads) (least : Nat) (most : Option Nat) : Leads :=
  let begun := leads.power least
  match most with
  | none => begun.andThen leads.closure
  | some most => begun.map fun places => leads.spread (most - least) places places

end Leads

/-- The characters around each position of a text. -/
def surroundings (text : List Char) : List (Option Char × Option Char) :=
  (none :: text.map some).zip (text.map some ++ [none])

/-- Is a character part of a word? -/
def inWord (unicode : Bool) (c : Char) : Bool :=
  if unicode then Unicode.word.contains c else c.isAlphanum || c = '_'

/-- Is there an edge of this kind between two characters, given whether each is part of a word? -/
def Edge.holds (kind : Edge) (before after : Bool) : Bool :=
  match kind with
  | boundary => before != after
  | noBoundary => before == after
  | start => !before && after
  | stop => before && !after
  | startHalf => !before
  | stopHalf => !after

/-- Does a position pass a test, given the characters in front of it and behind it? -/
def Look.holds (test : Look) (before after : Option Char) : Bool :=
  match test with
  | textStart => before.isNone
  | textEnd => after.isNone
  | lineStart returns =>
    before.isNone || before == some '\n' ||
      (returns && before == some '\r' && !(after == some '\n'))
  | lineEnd returns =>
    after.isNone ||
      (if returns then after == some '\r' || (after == some '\n' && !(before == some '\r'))
      else after == some '\n')
  | edge kind unicode => kind.holds (before.any (inWord unicode)) (after.any (inWord unicode))

/-- The positions of a text in front of the characters of a set. -/
def placesBefore (text : List Char) (accepts : Char → Bool) : Places :=
  .ofMarks (text.map accepts)

/-- What an expression comes to in a text: how it leads from positions to positions. -/
inductive Moves
  /-- On over one character, from these positions. -/
  | advance (passing : Thunk Places)
  /-- No further, at these positions. -/
  | stay (passing : Thunk Places)
  /-- From each position to where it leads. -/
  | jump (leads : Leads)
  /-- One move behind the other. -/
  | row (parts : List Moves)
  /-- Any of some moves. -/
  | choice (parts : List Moves)

namespace Moves

mutual

/-- Where moves lead to from a set of positions. -/
def reach : Moves → Places → Places
  | advance passing, starts => 2 * (starts &&& passing.get)
  | stay passing, starts => starts &&& passing.get
  | jump leads, starts => leads.follow starts 0
  | row parts, starts => reachRow parts starts
  | choice parts, starts => reachChoice parts starts 0

/-- The same for moves one behind the other. -/
def reachRow : List Moves → Places → Places
  | [], starts => starts
  | part :: parts, starts =>
    if starts = 0 then 0 else reachRow parts (reach part starts)

/-- The same for any of some moves, or of others that lead to `ends`. -/
def reachChoice : List Moves → Places → (ends : Places) → Places
  | [], _, ends => ends
  | part :: parts, starts, ends => reachChoice parts starts (ends ||| reach part starts)

end

/-- Where a move leads to from each position of a text. -/
def leads (text : List Char) (move : Moves) : Leads :=
  (Array.range (text.length + 1)).map fun i => reach move (.single i)

/-- On over one of some characters of a text. -/
def advanceOver (text : List Char) (accepts : Char → Bool) : Moves :=
  advance (Thunk.mk fun _ => placesBefore text accepts)

/-- No further, where the characters around a position pass a test. -/
def stayWhere (text : List Char) (passes : Option Char → Option Char → Bool) : Moves :=
  stay (Thunk.mk fun _ => .ofMarks ((surroundings text).map fun (before, after) =>
    passes before after))

/-- A move repeated, at least and at most as many times as given. -/
def repeated (text : List Char) (move : Moves) (least : Nat) (most : Option Nat) : Moves :=
  if least = 0 ∧ most = some 1 then choice [row [], move]
  else jump ((leads text move).repeated least most)

mutual

/-- The moves of an expression in a text. -/
def ofRegex (text : List Char) : Regex → Moves
  | .text cs => row (cs.map fun c => advanceOver text (· == c))
  | .one set _ => advanceOver text set.contains
  | .look test => stayWhere text test.holds
  | .times body least most _ => (ofRegex text body).repeated text least most
  | .group _ body => ofRegex text body
  | .row parts => row (ofRegexes text parts [])
  | .choice parts => choice (ofRegexes text parts [])

/-- The moves of some expressions, behind those in `done`, the last of which comes first. -/
def ofRegexes (text : List Char) : List Regex → (done : List Moves) → List Moves
  | [], done => done.reverse
  | part :: parts, done => ofRegexes text parts (ofRegex text part :: done)

end

end Moves

/-- Does a stretch that the expression describes occur in a text? -/
def occursIn (r : Regex) (text : List Char) : Bool :=
  let everywhere := Places.ofMarks ((surroundings text).map fun _ => true)
  (Moves.ofRegex text r).reach everywhere ≠ 0

end Dealias.Regex
