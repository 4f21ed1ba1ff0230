import Dealias.Text.CharSet

/-!
# Ranges of characters as ranges of bytes

The UTF-8 forms of the characters of a range, as few sequences of byte ranges: a sequence has all
forms whose bytes lie in its ranges, one each.  A range is cut where forms get longer, around the
surrogates, and at the ends of blocks of characters that differ in their last bytes only.
-/

namespace Dealias.Text

/-- Bytes from the first one to the second one. -/
abbrev ByteRange := Nat × Nat

/-- The bytes of the character with a number. -/
def numberBytes (n : Nat) : List Nat :=
  if n < 0x80 then [n]
  else if n < 0x800 then [0xC0 + n / 64, 0x80 + n % 64]
  else if n < 0x10000 then [0xE0 + n / 4096, 0x80 + n / 64 % 64, 0x80 + n % 64]
  else [0xF0 + n / 262144, 0x80 + n / 4096 % 64, 0x80 + n / 64 % 64, 0x80 + n % 64]

/-- The largest ranges of characters whose forms have the same length. -/
def sameLength : List NumberRange :=
  [(0, 0x7F), (0x80, 0x7FF), (0x800, 0xD7FF), (0xE000, 0xFFFF), (0x10000, 0x10FFFF)]

/-- How many characters there are in a block: those with the same form up to the last byte, up to
the last two and up to the last three. -/
def blockSizes : List Nat := [64, 4096, 262144]

/-- Cuts a range at the ends of blocks of the given sizes, from small to large. -/
def alignedWith : List Nat → NumberRange → List NumberRange
  | [], range => [range]
  | size :: sizes, (first, last) =>
    if first / size = last / size then [(first, last)]
    else
      let start := if first % size = 0 then first else (first / size + 1) * size
      let stop := if last % size = size - 1 then last else last / size * size - 1
      (if first < start then [(first, start - 1)] else []) ++
        (if start ≤ stop then alignedWith sizes (start, stop) else []) ++
          (if stop < last then [(stop + 1, last)] else [])

/-- Cuts a range at the ends of blocks. -/
def aligned (range : NumberRange) : List NumberRange :=
  if range.2 < 0x80 then [range] else alignedWith blockSizes range

/-- The sequences of byte ranges for a range of characters. -/
def byteRanges (range : NumberRange) : List (List ByteRange) :=
  ((CharSet.common [range] sameLength).flatMap aligned).map fun (first, last) =>
    (numberBytes first).zip (numberBytes last)

end Dealias.Text
