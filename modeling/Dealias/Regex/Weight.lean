import Dealias.Regex
import Dealias.Regex.Weight.CharSet
import Dealias.Regex.Weight.Words
import Dealias.Text.Utf8

/-!
# The weight of expressions

Two automata are made for an expression: one reads a text forwards and remembers groups, the other
one reads it backwards and does not.  `tooLarge` says whether either of them is above the limit.

The automaton that reads backwards is that of the `reversed` expression.  What is added for a part
hangs on the states in front of it only by their number, so that weighing is adding up.
-/

namespace Dealias.Regex

mutual

/-- The expression for the same stretches read from their ends, without groups. -/
def reversed : Regex → Regex
  | text letters => text letters.reverse
  | one set narrow => one set narrow
  | look test => look test
  | times body least most greedy => times (reversed body) least most greedy
  | group _ body => reversed body
  | row parts => row (allReversed parts [])
  | choice parts => choice (allReversed parts []).reverse

/-- Some expressions reversed, each put in front of those in `done`. -/
def allReversed : List Regex → (done : List Regex) → List Regex
  | [], done => done
  | part :: parts, done => allReversed parts (reversed part :: done)

end

mutual

/-- Does every stretch begin with a test? -/
def beginsWith (test : Look) : Regex → Bool
  | look other => other = test
  | times body least _ _ => least ≠ 0 && beginsWith test body
  | group _ body => beginsWith test body
  | row parts => rowBeginsWith test parts
  | choice parts => allBeginWith test parts
  | text _ | one _ _ => false

/-- The same for parts in a row: one of them begins with the test, and those in front of it have no
characters. -/
def rowBeginsWith (test : Look) : List Regex → Bool
  | [] => false
  | part :: parts =>
    beginsWith test part || (longest part = some 0 && rowBeginsWith test parts)

/-- Does every stretch of each of some expressions begin with a test? -/
def allBeginWith (test : Look) : List Regex → Bool
  | [] => true
  | part :: parts => beginsWith test part && allBeginWith test parts

end

mutual

/-- Does the automaton of an expression end in a state with several ways out?  If so, going on from
it takes a link. -/
def endsOpen : Regex → Bool
  | times body least most _ =>
    match most with
    | none => least ≠ 0 || (shortest body).any (· ≠ 0)
    | some most => least = most && least ≠ 0 && endsOpen body
  | row parts => lastEndsOpen parts
  | text _ | one _ _ | look _ | group _ _ | choice _ => false

/-- The same for the last part of a row. -/
def lastEndsOpen : List Regex → Bool
  | [] => false
  | [last] => endsOpen last
  | _ :: parts => lastEndsOpen parts

end

/-- How many links it takes to go on from an expression. -/
def linksBehind (r : Regex) : Nat := r.endsOpen.toNat

/-- The characters of some expressions, if each is a text that is not empty. -/
def texts? : List Regex → (done : List (List Char)) → Option (List (List Char))
  | [], done => some done.reverse
  | text (c :: cs) :: rest, done => texts? rest ((c :: cs) :: done)
  | _, _ => none

/-- The bytes of a text as they are read. -/
def bytesRead (backwards : Bool) (letters : List Char) : List UInt8 :=
  if backwards then (Text.bytes (String.ofList letters.reverse)).reverse
  else Text.bytes (String.ofList letters)

namespace Weight

/-- Adds a body in a row as many times as given, where `links` lead on from it. -/
def addExactly (add : Weight → Weight) (links : Nat) : Nat → Weight → Weight
  | 0, w => w.addStates 1
  | n + 1, w => add (w.repeated (fun w => (add w).addLinks links) n)

/-- Adds a repetition of a body, from which `links` lead on.  A body that is passed again and again
needs states of its own behind it if it may be empty. -/
def addTimes (add : Weight → Weight) (links : Nat) (mayBeEmpty : Bool) (least : Nat)
    (most : Option Nat) (w : Weight) : Weight :=
  match least, most with
  | 0, some 1 => ((add (w.addStates 1)).addStates 1).addLinks (2 + links)
  | 0, none =>
    if mayBeEmpty then ((add w).addStates 3).addLinks (4 + links)
    else (add (w.addStates 1)).addLinks (1 + links)
  | 1, none => ((add w).addStates 1).addLinks (1 + links)
  | n + 2, none =>
    ((add ((w.addExactly add links (n + 1)).addLinks links)).addStates 1).addLinks (1 + links)
  | least, some most =>
    let w := w.addExactly add links least
    if least = most then w
    else
      (((w.addStates 1).addLinks (if least = 0 then 0 else links)).repeated
        (fun w => (add (w.addStates 1)).addLinks (2 + links)) (most - least))

end Weight

mutual

/-- Adds the automaton of an expression. -/
def weigh (backwards : Bool) : Regex → Weight → Weight
  | text letters, w => w.addStates (max 1 (bytesRead backwards letters).length)
  | one set _, w => w.addSet backwards set
  | look _, w => w.addStates 1
  | times body least most _, w =>
    w.addTimes (fun w => weigh backwards body w) body.linksBehind ((shortest body).all (· = 0))
      least most
  | group _ body, w =>
    ((weigh backwards body (w.addStates 1)).addStates 1).addLinks body.linksBehind
  | row parts, w => weighRow backwards parts w
  | choice parts, w =>
    match texts? parts [] with
    | some texts => w.addWords (texts.map (bytesRead backwards))
    | none => weighBranches backwards 0 parts w

/-- Adds the automata of parts in a row, as long as the weight is not above the limit. -/
def weighRow (backwards : Bool) : List Regex → Weight → Weight
  | [], w => w
  | [last], w => weigh backwards last w
  | part :: parts, w =>
    if w.tooLarge then w
    else weighRow backwards parts ((weigh backwards part w).addLinks part.linksBehind)

/-- Adds the automata of the branches of a choice, of which so many are done already.  The states
where they part and meet come behind two of them. -/
def weighBranches (backwards : Bool) : (done : Nat) → List Regex → Weight → Weight
  | _, [], w => w
  | done, part :: parts, w =>
    if w.tooLarge then w
    else
      let w := (weigh backwards part w).addLinks (1 + part.linksBehind)
      weighBranches backwards (done + 1) parts (if done = 1 then w.addStates 2 else w)

end

namespace Weight

/-- In front of an automaton.  It begins anywhere in a text, unless it can do so at one end only. -/
def start (anchored : Bool) : Weight :=
  if anchored then zero.addStates 1 else ((zero.addStates 2).addBranching 1).addLinks 2

/-- The weight of the automaton that reads forwards. -/
def forwards (r : Regex) : Weight :=
  let w := weigh false r ((start (r.beginsWith .textStart)).addStates 1)
  (w.addStates 2).addLinks r.linksBehind

/-- The weight of the automaton that reads backwards. -/
def backwards (r : Regex) : Weight :=
  let r := r.reversed
  ((weigh true r (start (r.beginsWith .textEnd))).addStates 1).addLinks r.linksBehind

end Weight

/-- Is an expression too large for an automaton? -/
def tooLarge (r : Regex) : Bool :=
  (Weight.forwards r).tooLarge || (Weight.backwards r).tooLarge

end Dealias.Regex
