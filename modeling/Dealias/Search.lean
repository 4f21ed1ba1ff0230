/-!
# Literal search

The scan for a literal in a text, over any alphabet: it runs from left to right, takes the first
place where the literal starts, and goes on behind that occurrence.  So the occurrences it takes
never overlap.  `spans` reports where they are, `replace` puts another word in their place.

Both walk the text one letter at a time and carry the number of letters of the last occurrence
that are still to be passed over.  That makes the text itself the measure of the recursion, for
every literal.
-/

namespace Dealias.Search

variable {α : Type} [DecidableEq α]

/-- Does the text start with the literal? -/
def startsWith : (literal text : List α) → Bool
  | [], _ => true
  | _ :: _, [] => false
  | a :: literal, b :: text => if a = b then startsWith literal text else false

/-- A stretch of a text: the positions `start ≤ i < stop`. -/
structure Span where
  start : Nat
  stop : Nat
  deriving DecidableEq, Repr

/-- The occurrences taken in a text whose first letter stands at position `here`, when the first
`skip` letters still belong to the occurrence before. -/
def spansFrom (literal : List α) : (skip here : Nat) → List α → List Span
  | _, _, [] => []
  | skip + 1, here, _ :: text => spansFrom literal skip (here + 1) text
  | 0, here, c :: text =>
    if startsWith literal (c :: text) then
      ⟨here, here + literal.length⟩ :: spansFrom literal (literal.length - 1) (here + 1) text
    else
      spansFrom literal 0 (here + 1) text

/-- Where the occurrences of the literal are, from left to right. -/
def spans (literal text : List α) : List Span :=
  spansFrom literal 0 0 text

/-- `replace`, with the letters already written in `done`, last one first. -/
def replaceFrom (literal word : List α) : (skip : Nat) → (done : List α) → List α → List α
  | _, done, [] => done.reverse
  | skip + 1, done, _ :: text => replaceFrom literal word skip done text
  | 0, done, c :: text =>
    if startsWith literal (c :: text) then
      replaceFrom literal word (literal.length - 1) (word.reverse ++ done) text
    else
      replaceFrom literal word 0 (c :: done) text

/-- The text with `word` in place of every occurrence of the literal. -/
def replace (literal word text : List α) : List α :=
  replaceFrom literal word 0 [] text

/-- The parts of a text between separators, empty ones among them. -/
def parts (separator : α) : List α → List (List α)
  | [] => [[]]
  | c :: text =>
    if c = separator then [] :: parts separator text
    else
      match parts separator text with
      | [] => [[c]]
      | first :: others => (c :: first) :: others

/-- What is already written stays in front of what is still to come. -/
theorem replaceFrom_eq_append (literal word : List α) (skip : Nat) (done text : List α) :
    replaceFrom literal word skip done text
      = done.reverse ++ replaceFrom literal word skip [] text := by
  induction text generalizing skip done with
  | nil => simp [replaceFrom]
  | cons c text ih =>
    cases skip with
    | succ skip => simpa [replaceFrom] using ih skip done
    | zero =>
      by_cases h : startsWith literal (c :: text)
      · simp only [replaceFrom, h, if_true, List.append_nil]
        rw [ih _ (word.reverse ++ done), ih _ word.reverse]
        simp
      · simp only [replaceFrom, h, if_false, Bool.false_eq_true]
        rw [ih _ (c :: done), ih _ [c]]
        simp

/-- A text starts with a literal exactly when the literal is its beginning. -/
theorem startsWith_iff {literal text : List α} :
    startsWith literal text = true ↔ ∃ rest, text = literal ++ rest := by
  induction literal generalizing text with
  | nil => simp [startsWith]
  | cons a literal ih =>
    cases text with
    | nil => simp [startsWith]
    | cons b text => by_cases h : a = b <;> simp [startsWith, h, ih, eq_comm]

end Dealias.Search
