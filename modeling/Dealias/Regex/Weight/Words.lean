import Dealias.Regex.Weight.Basic

/-!
# The weight of a choice of words

The automaton of a choice between words reads what they begin with in common once.  Behind a state
lie the rests of the words that lead to it, in their order.  Where a word ends there, the words
behind it in the list are kept apart from those in front of it.
-/

namespace Dealias.Regex.Weight

/-- A word, as bytes. -/
abbrev Word := List UInt8

/-- The rests of words, as they are kept apart: the last bunch first, and how many ends of words
there are. -/
structure Bunches where
  bunches : List (List Word)
  ends : Nat

namespace Bunches

/-- No rests yet. -/
def none : Bunches := ⟨[[]], 0⟩

/-- Is there a rest that goes on? -/
def goesOn (b : Bunches) : Bool := b.bunches.any (· ≠ [])

/-- One rest more.  A second end counts only if a rest goes on. -/
def push (b : Bunches) (word : Word) : Bunches :=
  if word = [] then
    if b.ends ≠ 0 ∧ ¬ b.goesOn then b else ⟨[] :: b.bunches, b.ends + 1⟩
  else
    match b.bunches with
    | [] => ⟨[[word]], b.ends⟩
    | bunch :: others => ⟨(word :: bunch) :: others, b.ends⟩

end Bunches

/-- Words of a bunch by their first bytes, in the order of these. -/
def byFirst (bunch : List Word) : List (List Word) :=
  (bunch.mergeSort fun v w => v.head?.getD 0 ≤ w.head?.getD 0).splitBy fun v w => v.head? == w.head?

/-- Adds the state behind which some rests lie; also the rests behind the next ones. -/
def addState (words : List Word) (w : Weight) : Weight × List (List Word) :=
  let parts := words.foldl Bunches.push .none
  if parts.goesOn then
    let bunches := parts.bunches.filterMap fun bunch =>
      if bunch = [] then none else some (byFirst bunch.reverse)
    let w := bunches.foldl (fun w firsts =>
      if firsts.length = 1 then w.addStates 1 else w.addBranching firsts.length) w
    ((w.addStates 1).addLinks (bunches.length + parts.ends),
      bunches.flatten.map fun same => same.map List.tail)
  else (w, [])

/-- Adds the states behind which some lists of rests lie, at most `fuel` of them. -/
def addStatesOf : (fuel : Nat) → List (List Word) → Weight → Weight
  | 0, _, w => w
  | _, [], w => w
  | fuel + 1, words :: others, w =>
    if w.tooLarge then w
    else
      let (w, more) := addState words w
      addStatesOf fuel (more ++ others) w

/-- Adds the automaton of a choice between words.  It has no more states in a row than the words
have bytes. -/
def addWords (words : List Word) (w : Weight) : Weight :=
  let bytes := words.foldl (fun n word => n + word.length) 0
  addStatesOf (2 * bytes + 1) [words] (w.addStates 1)

end Dealias.Regex.Weight
