/-!
# Numbers in JSON

What reading a number needs beyond its grammar: how many of its digits an unsigned 64-bit integer
can hold, and whether its value is beyond every finite double.  Doubles are represented by the
natural numbers that they round to, so the test is exact.
-/

namespace Dealias.Json

/-- The unsigned 64-bit integers are below this number. -/
def wordLimit : Nat := 18446744073709551616

/-- The value of a decimal digit. -/
def digitValue (c : Char) : Nat :=
  c.toNat - '0'.toNat

/-- Appends decimal digits to a number for as long as it fits into 64 bits, and counts them. -/
def absorb (n : Nat) : List Char → Nat × Nat
  | [] => (n, 0)
  | d :: ds =>
    let next := n * 10 + digitValue d
    if next < wordLimit then
      let (m, used) := absorb next ds
      (m, used + 1)
    else (n, 0)

/-- The nearest number with 53 significant binary digits; a tie goes to the even one. -/
def round53 (n : Nat) : Nat :=
  let excess := Nat.log2 n + 1 - 53
  let unit := Nat.pow 2 excess
  let low := n / unit
  let half := 2 * (n % unit)
  let up := unit < half ∨ (half = unit ∧ low % 2 = 1)
  (if up then low + 1 else low) * unit

/-- Is `n` times this power of ten beyond every finite double? -/
def beyondDouble (n : Nat) (exponent : Int) : Bool :=
  n ≠ 0 ∧ 0 ≤ exponent ∧
    (308 < exponent ∨ Nat.pow 2 1024 ≤ round53 (round53 n * round53 (Nat.pow 10 exponent.toNat)))

end Dealias.Json
