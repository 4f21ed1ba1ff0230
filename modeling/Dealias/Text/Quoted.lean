import Dealias.Text.Hex
import Dealias.Text.Unseen
import Dealias.Text.Utf8

/-!
# Quoted names

A file name inside double quotation marks, for the messages that show one exactly: double quotation
marks, backslashes and four control characters have an escape each, any other character that would
not be seen is given by its number, and a byte that is part of no character by its value.
-/

namespace Dealias.Text

/-- One character of a quoted name. -/
def quotedChar (c : Char) : List Char :=
  if c = '\u0000' then ['\\', '0']
  else if c = '\t' then ['\\', 't']
  else if c = '\r' then ['\\', 'r']
  else if c = '\n' then ['\\', 'n']
  else if c = '\\' ∨ c = '"' then ['\\', c]
  else if isUnseen c then ['\\', 'u', '\x7b'] ++ hex c.toNat ++ ['\x7d']
  else [c]

/-- One byte of a quoted name that is part of no character: two digits, capital letters. -/
def quotedByte (b : UInt8) : List Char :=
  let digits := (hex b.toNat).map Char.toUpper
  ['\\', 'x'] ++ List.replicate (2 - digits.length) '0' ++ digits

/-- Bytes as a name in quotation marks. -/
def quoted (bytes : List UInt8) : String :=
  String.ofList <| '"' :: ((pieces bytes).flatMap fun
    | .char c => quotedChar c
    | .broken bs => bs.flatMap quotedByte) ++ ['"']

end Dealias.Text
