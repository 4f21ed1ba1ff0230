import Dealias.Failure
import Dealias.Text.Indent

/-!
# Reports

How a failure is told to the user: the notes that the program put around it, the failure and its
chain of causes, either on one line or as a headline with a numbered list below it.
-/

namespace Dealias

/-- A failure with the notes of the program around it, outermost first. -/
structure Report where
  notes : List String
  failure : Failure
  deriving DecidableEq, Repr

namespace Report

/-- All texts of a report, outermost first. -/
def texts (r : Report) : List String :=
  r.notes ++ r.failure.message :: r.failure.causes

/-- The report on one line. -/
def line (r : Report) : String :=
  ": ".intercalate r.texts

/-- A number, right-aligned in five columns. -/
def aligned (n : Nat) : String :=
  let digits := toString n
  "".pushn ' ' (5 - digits.length) ++ digits

/-- The lines of a list of causes.  A single cause goes without a number. -/
def causeLines : List String → List String
  | [] => []
  | [only] => ["    " ++ Text.indentLater "    " only]
  | causes => causes.mapIdx fun i cause => aligned i ++ ": " ++ Text.indentLater "       " cause

/-- The report with its causes in a list. -/
def text (r : Report) : String :=
  match r.texts with
  | [] => ""
  | [headline] => headline
  | headline :: causes => "\n".intercalate (headline :: "" :: "Caused by:" :: causeLines causes)

end Report

end Dealias
