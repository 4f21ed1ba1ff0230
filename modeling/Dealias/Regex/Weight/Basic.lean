import Dealias.Text.CharSet

/-!
# Weights

An expression is made ready for matching by an automaton.  Its weight is the room it takes: some for
each state, and some for each way out of a state that has several.
-/

namespace Dealias.Regex

/-- The number of states, and the bytes that their ways out take. -/
structure Weight where
  states : Nat
  ways : Nat
  deriving DecidableEq

namespace Weight

/-- The bytes for a state. -/
def perState : Nat := 32

/-- The bytes for a way out that is taken without a character. -/
def perLink : Nat := 4

/-- The bytes for a way out over one of some bytes. -/
def perStep : Nat := 8

/-- The largest weight in bytes of an expression that is accepted. -/
def limit : Nat := 10485760

/-- Nothing yet. -/
def zero : Weight := ⟨0, 0⟩

/-- The weight in bytes. -/
def total (w : Weight) : Nat := perState * w.states + w.ways

/-- Is a weight above the limit? -/
def tooLarge (w : Weight) : Bool := limit < w.total

/-- Some states more. -/
def addStates (n : Nat) (w : Weight) : Weight := { w with states := w.states + n }

/-- Some links more. -/
def addLinks (n : Nat) (w : Weight) : Weight := { w with ways := w.ways + perLink * n }

/-- A state more, with some ways out over bytes. -/
def addBranching (n : Nat) (w : Weight) : Weight := ⟨w.states + 1, w.ways + perStep * n⟩

/-- The same weight added again and again, as long as it is not above the limit. -/
def repeated (add : Weight → Weight) : Nat → Weight → Weight
  | 0, w => w
  | n + 1, w => if w.tooLarge then w else repeated add n (add w)

end Weight

end Dealias.Regex
