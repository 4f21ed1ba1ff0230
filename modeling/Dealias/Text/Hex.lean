/-!
# Base sixteen

Numbers in digits of base sixteen, and what such a digit is worth.
-/

namespace Dealias.Text

/-- The digits of a number in base sixteen, small letters. -/
def hex (n : Nat) : List Char :=
  Nat.toDigits 16 n

/-- The value of a digit in base sixteen, in letters of either case. -/
def hexValue? (c : Char) : Option Nat :=
  if '0' ≤ c ∧ c ≤ '9' then some (c.toNat - '0'.toNat)
  else if 'a' ≤ c ∧ c ≤ 'f' then some (c.toNat - 'a'.toNat + 10)
  else if 'A' ≤ c ∧ c ≤ 'F' then some (c.toNat - 'A'.toNat + 10)
  else none

end Dealias.Text
