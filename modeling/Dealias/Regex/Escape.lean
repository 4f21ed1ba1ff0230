import Dealias.Regex
import Dealias.Regex.Class
import Dealias.Text.Hex

/-!
# Escapes

What a backslash and the characters behind it stand for: a character, a set of characters, or a
test of a position.
-/

namespace Dealias.Regex

open Text

/-- A piece of a pattern that stands for itself or for a set or test by one word. -/
inductive Atom
  /-- A character; `short` if it is given by two digits in base sixteen. -/
  | char (c : Char) (short : Bool)
  | digits (negated : Bool)
  | blanks (negated : Bool)
  | words (negated : Bool)
  | property (name : PropertyName) (negated : Bool)
  | dot
  /-- The start of the text, or of a line if the flags say so. -/
  | caret
  /-- The end of the text, or of a line if the flags say so. -/
  | dollar
  | textStart
  | textEnd
  /-- The edge of a word. -/
  | edge (kind : Edge)

namespace Escape

/-- Does a character stand for itself behind a backslash? -/
def standsForItself (c : Char) : Bool :=
  c.toNat < 0x80 && !c.isAlphanum && c ≠ '<' && c ≠ '>'

/-- The characters that have a letter behind a backslash. -/
def control? : Char → Option Char
  | 'a' => some '\x07'
  | 'f' => some '\x0c'
  | 't' => some '\t'
  | 'n' => some '\n'
  | 'r' => some '\r'
  | 'v' => some '\x0b'
  | _ => none

/-- The character with a number in base sixteen. -/
def charOfHex? (digits : List Char) : Option Char :=
  let n := digits.foldl (fun n c => 16 * n + (Text.hexValue? c).getD 0) 0
  if h : n.isValidChar then some (Char.ofNatAux n h) else none

/-- As many digits in base sixteen as given, behind those in `done`. -/
def readDigits : Nat → List Char → Cursor → Except Problem (List Char × Cursor)
  | 0, done, c => .ok (done, c)
  | n + 1, done, c =>
    match c.char? with
    | none => Cursor.fail .escapeUnfinished c.here
    | some a =>
      if (Text.hexValue? a).isSome then readDigits n (done ++ [a]) c.next
      else Cursor.fail .hexDigitInvalid c.charSpan

/-- A character by its number, behind the letter `x`, `u` or `U`: that many digits, or any number
of them in braces. -/
def readHex (count : Nat) (c : Cursor) : Except Problem (Atom × Cursor) := do
  let c := c.next
  match c.char? with
  | none => Cursor.fail .escapeUnfinished c.here
  | some '\x7b' =>
    let (digits, d) := c.next.takeWhile fun a => (Text.hexValue? a).isSome
    match d.char? with
    | none => Cursor.fail .escapeUnfinished (c.upTo d)
    | some '\x7d' =>
      if digits = [] then Cursor.fail .hexEmpty (c.upTo d.next)
      else
        match charOfHex? digits with
        | some a => return (.char a false, d.next)
        | none => Cursor.fail .hexInvalid (c.step.upTo d)
    | some _ => Cursor.fail .hexDigitInvalid d.charSpan
  | some _ =>
    let (digits, d) ← readDigits count [] c
    match charOfHex? digits with
    | some a => return (.char a (count = 2), d)
    | none => Cursor.fail .hexInvalid (c.upTo d)

/-- The parts of a text around the first occurrence of a word in it. -/
def around? (word : List Char) : List Char → Option (List Char × List Char)
  | [] => none
  | c :: rest =>
    if word.isPrefixOf (c :: rest) then some ([], (c :: rest).drop word.length)
    else (around? word rest).map fun (before, after) => (c :: before, after)

/-- The property that the text between braces asks for, and whether it is asked for not to hold. -/
def propertyName (text : List Char) : PropertyName × Bool :=
  match around? ['!', '='] text, around? [':'] text, around? ['='] text with
  | some (property, value), _, _ => (⟨property, some value⟩, true)
  | none, some (property, value), _ => (⟨property, some value⟩, false)
  | none, none, some (property, value) => (⟨property, some value⟩, false)
  | none, none, none => (⟨text, none⟩, false)

/-- A property, behind the letter `p`, or `P` for what does not have it: one letter, or a name in
braces. -/
def readProperty (negated : Bool) (c : Cursor) : Except Problem (Atom × Cursor) := do
  let c := c.next
  match c.char? with
  | none => Cursor.fail .escapeUnfinished c.here
  | some '\x7b' =>
    let (inside, d) := c.next.takeWhile (· ≠ '\x7d')
    if d.atEnd then Cursor.fail .escapeUnfinished d.here
    else
      let (name, differs) := propertyName inside
      return (.property name (negated != differs), d.step)
  | some '\\' => Cursor.fail .propertyInvalid c.charSpan
  | some a => return (.property ⟨[a], none⟩ negated, c.next)

/-- The kind of word boundary with a name in braces. -/
def namedBoundary? : String → Option Edge
  | "start" => some .start
  | "end" => some .stop
  | "start-half" => some .startHalf
  | "end-half" => some .stopHalf
  | _ => none

/-- A word boundary, behind the letter `b`, whose backslash stands at `start`.  Braces that do not
start with a letter or a hyphen belong to what follows. -/
def readBoundary (start c : Cursor) : Except Problem (Atom × Cursor) := do
  if c.char? = some '\x7b' then
    let isPart (a : Char) : Bool := a.isAlpha || a = '-'
    match c.next.char? with
    | none => Cursor.fail .boundaryUnfinished (start.upTo c.next)
    | some a =>
      if isPart a then
        let (name, d) := c.next.takeWhile isPart
        if d.char? = some '\x7d' then
          match namedBoundary? (String.ofList name) with
          | some kind => return (.edge kind, d.step)
          | none => Cursor.fail .boundaryUnknown (c.next.upTo d)
        else Cursor.fail .boundaryUnclosed (c.upTo d)
      else return (.edge .boundary, c)
  else return (.edge .boundary, c)

/-- What a backslash and the characters behind it stand for. -/
def read (start : Cursor) : Except Problem (Atom × Cursor) :=
  let c := start.step
  let behind := c.step
  match c.char? with
  | none => Cursor.fail .escapeUnfinished (start.upTo c)
  | some a =>
    match a with
    | 'x' => readHex 2 c
    | 'u' => readHex 4 c
    | 'U' => readHex 8 c
    | 'p' => readProperty false c
    | 'P' => readProperty true c
    | 'd' => .ok (.digits false, behind)
    | 'D' => .ok (.digits true, behind)
    | 's' => .ok (.blanks false, behind)
    | 'S' => .ok (.blanks true, behind)
    | 'w' => .ok (.words false, behind)
    | 'W' => .ok (.words true, behind)
    | 'A' => .ok (.textStart, behind)
    | 'z' => .ok (.textEnd, behind)
    | 'b' => readBoundary start behind
    | 'B' => .ok (.edge .noBoundary, behind)
    | '<' => .ok (.edge .start, behind)
    | '>' => .ok (.edge .stop, behind)
    | _ =>
      if a.isDigit then Cursor.fail .backreference (start.upTo behind)
      else if standsForItself a then .ok (.char a false, behind)
      else
        match control? a with
        | some b => .ok (.char b false, behind)
        | none => Cursor.fail .escapeUnknown (start.upTo behind)

end Escape

namespace Atom

/-- The test of a position that an atom stands for under some flags, if it does. -/
def look? (flags : Flags) : Atom → Option Look
  | caret =>
    some (if Flag.multiline ∈ flags then .lineStart (Flag.crlf ∈ flags) else .textStart)
  | dollar => some (if Flag.multiline ∈ flags then .lineEnd (Flag.crlf ∈ flags) else .textEnd)
  | textStart => some .textStart
  | textEnd => some .textEnd
  | edge kind => some (.edge kind (Flag.unicode ∈ flags))
  | char _ _ | digits _ | blanks _ | words _ | property _ _ | dot => none

/-- The set of characters that an atom stands for under some flags.  A test of a position stands for
no character. -/
def set (flags : Flags) : Atom → Except Flaw CharSet
  | char c short =>
    if short && !(Flag.unicode ∈ flags) && 0x80 ≤ c.toNat then .error .notUtf8
    else .ok (.char c)
  | digits negated => Class.checked flags ((Class.digits flags).oppositeIf negated)
  | blanks negated => Class.checked flags ((Class.blanks flags).oppositeIf negated)
  | words negated => Class.checked flags ((Class.words flags).oppositeIf negated)
  | property name negated =>
    if Flag.unicode ∈ flags then do Class.foldedIf flags negated (← name.set)
    else .error .unicodeExcluded
  | dot => if Flag.unicode ∈ flags then .ok (Class.dot flags) else .error .notUtf8
  | caret | dollar | textStart | textEnd | edge _ => .ok .nothing

end Atom

end Dealias.Regex
