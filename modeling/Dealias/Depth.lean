/-!
# Depth

How many directories lie between the root of a walk and a file.  The depth says how a reference to
the root is written in that file: `./` in the root itself, `../` once for each directory below it.
-/

namespace Dealias

/-- The number of directories between the root and a file. -/
structure Depth where
  levels : Nat
  deriving DecidableEq, Repr

namespace Depth

/-- The depth of a file in the root itself. -/
def root : Depth := ⟨0⟩

/-- One directory further down. -/
def descend (d : Depth) : Depth := ⟨d.levels + 1⟩

/-- Is this the root's own depth? -/
def isRoot (d : Depth) : Bool := d.levels = 0

/-- Is `d` deeper than `e`? -/
def isBelow (d e : Depth) : Bool := e.levels < d.levels

/-- The depth as a decimal number. -/
def display (d : Depth) : String := toString d.levels

/-- The dot segments that lead from a directory at this depth to the root. -/
def ascent (d : Depth) : List Char :=
  if d.levels = 0 then ['.', '/'] else (List.replicate d.levels ['.', '.', '/']).flatten

end Depth

end Dealias
