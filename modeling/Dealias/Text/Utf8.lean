/-!
# Texts as bytes

A text is a sequence of characters; a file and a file name are sequences of bytes.  `bytes` is the
UTF-8 encoding of a text and `ofBytes?` reads it back.  `lossy` shows any bytes as a text: each
maximal piece that begins a character but does not complete one is shown as U+FFFD, as is each byte
that begins none.
-/

namespace Dealias.Text

/-- The UTF-8 encoding of a text. -/
def bytes (text : String) : List UInt8 :=
  text.toByteArray.data.toList

/-- The text with this encoding, if there is one. -/
def ofBytes? (bytes : List UInt8) : Option String :=
  String.fromUTF8? ⟨bytes.toArray⟩

/-- What a character stands for that could not be read. -/
def replacement : Char := '\uFFFD'

/-- A byte from `low` to `high`. -/
def within (low high b : UInt8) : Bool :=
  low ≤ b && b ≤ high

/-- A byte that continues a character. -/
def isTail (b : UInt8) : Bool :=
  within 0x80 0xBF b

/-- How long the character is that a byte begins, and the bounds on its second byte, which rule out
overlong forms, surrogates and what lies beyond U+10FFFF. -/
inductive Lead
  | one
  | two
  | three (low high : UInt8)
  | four (low high : UInt8)
  | invalid

/-- What a first byte announces. -/
def lead (b : UInt8) : Lead :=
  if b < 0x80 then .one
  else if within 0xC2 0xDF b then .two
  else if b = 0xE0 then .three 0xA0 0xBF
  else if b = 0xED then .three 0x80 0x9F
  else if within 0xE1 0xEF b then .three 0x80 0xBF
  else if b = 0xF0 then .four 0x90 0xBF
  else if within 0xF1 0xF3 b then .four 0x80 0xBF
  else if b = 0xF4 then .four 0x80 0x8F
  else .invalid

/-- Six more bits of a code point. -/
def shift (high : Nat) (b : UInt8) : Nat :=
  high * 64 + (b.toNat - 0x80)

/-- One piece of a byte sequence, read from its front. -/
inductive Piece
  /-- A complete character. -/
  | char (c : Char)
  /-- The longest beginning of a character, or a byte that begins none. -/
  | broken (bytes : List UInt8)

/-- Splits bytes into complete characters and broken pieces. -/
def pieces : List UInt8 → List Piece
  | [] => []
  | b :: rest =>
    match lead b with
    | .one => .char (Char.ofNat b.toNat) :: pieces rest
    | .invalid => .broken [b] :: pieces rest
    | .two =>
      match rest with
      | [] => [.broken [b]]
      | c :: rest₁ =>
        if isTail c then .char (Char.ofNat (shift (b.toNat - 0xC0) c)) :: pieces rest₁
        else .broken [b] :: pieces (c :: rest₁)
    | .three low high =>
      match rest with
      | [] => [.broken [b]]
      | c :: rest₁ =>
        if within low high c then
          match rest₁ with
          | [] => [.broken [b, c]]
          | d :: rest₂ =>
            if isTail d then
              .char (Char.ofNat (shift (shift (b.toNat - 0xE0) c) d)) :: pieces rest₂
            else .broken [b, c] :: pieces (d :: rest₂)
        else .broken [b] :: pieces (c :: rest₁)
    | .four low high =>
      match rest with
      | [] => [.broken [b]]
      | c :: rest₁ =>
        if within low high c then
          match rest₁ with
          | [] => [.broken [b, c]]
          | d :: rest₂ =>
            if isTail d then
              match rest₂ with
              | [] => [.broken [b, c, d]]
              | e :: rest₃ =>
                if isTail e then
                  .char (Char.ofNat (shift (shift (shift (b.toNat - 0xF0) c) d) e)) :: pieces rest₃
                else .broken [b, c, d] :: pieces (e :: rest₃)
            else .broken [b, c] :: pieces (d :: rest₂)
        else .broken [b] :: pieces (c :: rest₁)

/-- Bytes shown as a text, with U+FFFD for each broken piece. -/
def lossy (bytes : List UInt8) : String :=
  String.ofList <| (pieces bytes).map fun
    | .char c => c
    | .broken _ => replacement

end Dealias.Text
