/-!
# Ranges of characters

A class of characters as a list of ranges of their numbers, each with its first and its last one.
-/

namespace Dealias.Text

/-- Does one of the ranges hold a character? -/
def inRanges (ranges : List (Nat × Nat)) (c : Char) : Bool :=
  ranges.any fun range => range.1 ≤ c.toNat && c.toNat ≤ range.2

end Dealias.Text
