import Dealias.Regex

/-!
# Simplified expressions

An expression as a pattern spells it out is put into a form with fewer parts: rows in rows and
choices in choices are dissolved, characters in a row become one text, sets between which there is
a choice become one set, and what all branches of a choice begin with is put in front of it.
-/

namespace Dealias.Regex

open Text

/-- One character of a set, which is a text if the set has one character only. -/
def ofSet (set : CharSet) (narrow : Bool) : Regex :=
  if set = .nothing then nothing
  else
    match set.single? with
    | some c => text [c]
    | none => one set narrow

/-- A repetition.  More than one stretch without characters is as good as one. -/
def repetition (body : Regex) (least : Nat) (most : Option Nat) (greedy : Bool) : Regex :=
  let hollow := longest body = some 0
  let least := if hollow then min least 1 else least
  let most := if hollow then some (min (most.getD 1) 1) else most
  if least = 0 ∧ most = some 0 then empty
  else if least = 1 ∧ most = some 1 then body
  else times body least most greedy

/-- The parts of a row; another expression is its own only part. -/
def rowParts : Regex → List Regex
  | row parts => parts
  | r => [r]

/-- The branches of a choice; another expression is its own only branch. -/
def branches : Regex → List Regex
  | choice parts => parts
  | r => [r]

/-- A row that is put together: the parts so far and the characters behind them, both from the last
one on. -/
structure RowSoFar where
  parts : List Regex
  letters : List Char

namespace RowSoFar

/-- The characters become a part. -/
def close (row : RowSoFar) : List Regex :=
  if row.letters = [] then row.parts else text row.letters.reverse :: row.parts

/-- One part more. -/
def push (row : RowSoFar) : Regex → RowSoFar
  | text letters => { row with letters := letters.reverse ++ row.letters }
  | part => ⟨part :: row.close, []⟩

end RowSoFar

/-- A row of some parts. -/
def inRow (parts : List Regex) : Regex :=
  match (((parts.flatMap rowParts).foldl RowSoFar.push ⟨[], []⟩).close).reverse with
  | [] => empty
  | [only] => only
  | parts => row parts

/-- The characters of some expressions, if each is one character. -/
def letters? : List Regex → (done : List Char) → Option (List Char)
  | [], done => some done
  | text [c] :: rest, done => letters? rest (c :: done)
  | _, _ => none

/-- The sets of some expressions, if each is one character of a set. -/
def sets? : List Regex → (done : List CharSet) → Option (List CharSet)
  | [], done => some done
  | one set _ :: rest, done => sets? rest (set :: done)
  | _, _ => none

/-- The parts of some expressions, if each is a row. -/
def rows? : List Regex → (done : List (List Regex)) → Option (List (List Regex))
  | [], done => some done.reverse
  | row parts :: rest, done => rows? rest (parts :: done)
  | _, _ => none

/-- How many parts two rows have in common from their start. -/
def commonCount : List Regex → List Regex → (done : Nat) → Nat
  | a :: as, b :: bs, done => if same a b then commonCount as bs (done + 1) else done
  | _, _, done => done

/-- What some rows have in common from their start. -/
def commonParts : List (List Regex) → List Regex
  | [] => []
  | first :: others =>
    others.foldl (fun parts other => parts.take (commonCount parts other 0)) first

/-- A choice between some expressions, where common beginnings are put in front at most `fuel`
times. -/
def inChoiceWith : (fuel : Nat) → List Regex → Regex
  | fuel, parts =>
    let parts := parts.flatMap branches
    match parts with
    | [] => nothing
    | [only] => only
    | _ =>
      match letters? parts [], sets? parts [], rows? parts [], fuel with
      | some letters, _, _, _ => ofSet (.ofList letters) false
      | none, some sets, _, _ => ofSet (.unions sets) false
      | none, none, some rows, fuel + 1 =>
        match commonParts rows with
        | [] => choice parts
        | beginning =>
          let ends := rows.map fun parts => inRow (parts.drop beginning.length)
          inRow (beginning ++ [inChoiceWith fuel ends])
      | _, _, _, _ => choice parts

/-- A choice between some expressions.  A common beginning is one part shorter than the row it is
taken from, so it is found no more often than there are parts. -/
def inChoice (parts : List Regex) : Regex :=
  inChoiceWith (((parts.flatMap branches).map fun r => (rowParts r).length).foldl max 0) parts

mutual

/-- An expression in simplified form. -/
def simplified : Regex → Regex
  | text letters => text letters
  | one set narrow => ofSet set narrow
  | look test => look test
  | times body least most greedy => repetition (simplified body) least most greedy
  | group number body => group number (simplified body)
  | row parts => inRow (allSimplified parts [])
  | choice parts => inChoice (allSimplified parts [])

/-- Some expressions in simplified form, behind those in `done`, the last of which comes first. -/
def allSimplified : List Regex → (done : List Regex) → List Regex
  | [], done => done.reverse
  | part :: parts, done => allSimplified parts (simplified part :: done)

end

end Dealias.Regex
