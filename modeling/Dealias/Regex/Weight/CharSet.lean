import Std.Data.HashMap
import Dealias.Regex.Weight.Basic
import Dealias.Text.Utf8Ranges

/-!
# The weight of sets of characters

The automaton of a set reads the bytes of a character.  States that lead on in the same way are
shared as far as a memory of fixed size knows of them: it has numbered places, a state is kept at
the place that its ways out are mixed into, and it is forgotten once another one comes to the same
place.
-/

namespace Dealias.Regex.Weight

open Text

/-- A way out of a state: over the bytes of a range, to a state with a number. -/
structure Step where
  bytes : ByteRange
  target : Nat
  deriving DecidableEq

/-- Numbers mixed into one. -/
def mixed (numbers : List Nat) : UInt64 :=
  numbers.foldl (fun h n => (h ^^^ UInt64.ofNat n) * 0x100000001B3) 0xCBF29CE484222325

/-- What is remembered: at its place, each state with its ways out. -/
abbrev Memory := Std.HashMap Nat (List Step × Nat)

/-- An automaton that is put together. -/
structure Assembly where
  weight : Weight
  memory : Memory

/-- The state with some ways out, if it is remembered at a place. -/
def Assembly.recall? (a : Assembly) (place : Nat) (steps : List Step) : Option Nat :=
  match a.memory[place]? with
  | some (known, state) => if known = steps then some state else none
  | none => none

/-- A state with some ways out: a new one of a weight, unless it is remembered. -/
def Assembly.state (a : Assembly) (place : Nat) (steps : List Step) (add : Weight → Weight) :
    Nat × Assembly :=
  match a.recall? place steps with
  | some state => (state, a)
  | none =>
    let state := a.weight.states
    (state, ⟨add a.weight, a.memory.insert place (steps, state)⟩)

/-- The places of states of the automaton that reads forwards. -/
def forwardPlaces : Nat := 10000

/-- The place of a state of the automaton that reads forwards. -/
def forwardPlace (steps : List Step) : Nat :=
  (mixed (steps.flatMap fun step => [step.bytes.1, step.bytes.2, step.target])).toNat %
    forwardPlaces

/-- Do two sequences begin with the same bytes? -/
def sameHead (s t : List ByteRange) : Bool := s.head? == t.head?

/-- The state that reads one of some sequences, which are in order and end in the state `target`.
No sequence is longer than `fuel`. -/
def forwardState (target : Nat) : (fuel : Nat) → List (List ByteRange) → Assembly → Nat × Assembly
  | 0, _, a => (target, a)
  | fuel + 1, sequences, a =>
    let (steps, a) := (sequences.splitBy sameHead).foldl (fun (steps, a) same =>
      match same with
      | (bytes :: rest) :: others =>
        if rest = [] then (⟨bytes, target⟩ :: steps, a)
        else
          let (state, a) := forwardState target fuel (rest :: others.map List.tail) a
          (⟨bytes, state⟩ :: steps, a)
      | _ => (steps, a)) ([], a)
    let steps := steps.reverse
    a.state (forwardPlace steps) steps (·.addBranching steps.length)

/-- Adds the automaton of a set that reads forwards. -/
def addForward (set : CharSet) (w : Weight) : Weight :=
  (forwardState w.states 4 (set.ranges.flatMap byteRanges) ⟨w.addStates 1, ∅⟩).2.weight

/-- The places of states of the automaton that reads backwards. -/
def backwardPlaces : Nat := 1000

/-- The place of a state of the automaton that reads backwards. -/
def backwardPlace (step : Step) : Nat :=
  (mixed [step.target, step.bytes.1, step.bytes.2]).toNat % backwardPlaces

/-- Adds the states that read a sequence backwards. -/
def addSequence (last : Nat) (a : Assembly) (sequence : List ByteRange) : Assembly :=
  let (_, a) := sequence.foldl (fun (state, a) bytes =>
    let step : Step := ⟨bytes, state⟩
    a.state (backwardPlace step) [step] (·.addStates 1)) (last, a)
  { a with weight := a.weight.addLinks 1 }

/-- Adds the automaton of a set that reads backwards. -/
def addBackward (set : CharSet) (w : Weight) : Weight :=
  ((set.ranges.flatMap byteRanges).foldl (addSequence (w.states + 1)) ⟨w.addStates 2, ∅⟩).weight

/-- Adds the automaton of a set. -/
def addSet (backwards : Bool) (set : CharSet) (w : Weight) : Weight :=
  if set.isAscii then (w.addStates 1).addBranching set.ranges.length
  else if backwards then addBackward set w
  else addForward set w

end Dealias.Regex.Weight
