import Dealias.Search

/-!
# Patterns that are none

What is wrong with a pattern, where in it, and how that is told: the pattern with marks under the
part that is wrong, and a sentence.  A pattern of several lines gets numbers in front of its lines
and a rule of tildes above and below.
-/

namespace Dealias.Regex

/-- A place in a pattern.  Lines and columns count from one. -/
structure Position where
  line : Nat
  column : Nat
  deriving DecidableEq

namespace Position

/-- The place where a pattern starts. -/
def start : Position := ⟨1, 1⟩

/-- The place behind a character. -/
def after (p : Position) (c : Char) : Position :=
  if c = '\n' then ⟨p.line + 1, 1⟩ else ⟨p.line, p.column + 1⟩

/-- Does a place come before another, or is it the same? -/
def le (p q : Position) : Bool :=
  p.line < q.line || p.line = q.line && p.column ≤ q.column

end Position

/-- A part of a pattern, from a place up to another. -/
structure Span where
  start : Position
  stop : Position
  deriving DecidableEq

/-- What is wrong with a pattern. -/
inductive Flaw
  | groupUnclosed
  | groupUnopened
  | groupNameEmpty
  | groupNameInvalid
  | groupNameUnclosed
  | groupNameDuplicate
  | flagUnknown
  | flagDuplicate
  | flagMissing
  | negationRepeated
  | negationDangling
  | lookAround
  | repetitionMissing
  | countUnclosed
  | countEmpty
  | countInvalid
  | numberInvalid
  | classUnclosed
  | classEscapeInvalid
  | classRangeInvalid
  | classBoundInvalid
  | escapeUnfinished
  | escapeUnknown
  | backreference
  | hexEmpty
  | hexInvalid
  | hexDigitInvalid
  | boundaryUnclosed
  | boundaryUnknown
  | boundaryUnfinished
  | propertyInvalid
  | propertyUnknown
  | propertyValueUnknown
  | tooDeep (limit : Nat)
  | unicodeExcluded
  | notUtf8
  deriving DecidableEq

/-- The sentence for a flaw. -/
def Flaw.message : Flaw → String
  | groupUnclosed => "unclosed group"
  | groupUnopened => "unopened group"
  | groupNameEmpty => "empty capture group name"
  | groupNameInvalid => "invalid capture group character"
  | groupNameUnclosed => "unclosed capture group name"
  | groupNameDuplicate => "duplicate capture group name"
  | flagUnknown => "unrecognized flag"
  | flagDuplicate => "duplicate flag"
  | flagMissing => "expected flag but got end of regex"
  | negationRepeated => "flag negation operator repeated"
  | negationDangling => "dangling flag negation operator"
  | lookAround => "look-around, including look-ahead and look-behind, is not supported"
  | repetitionMissing => "repetition operator missing expression"
  | countUnclosed => "unclosed counted repetition"
  | countEmpty => "repetition quantifier expects a valid decimal"
  | countInvalid => "invalid repetition count range, the start must be <= the end"
  | numberInvalid => "decimal literal invalid"
  | classUnclosed => "unclosed character class"
  | classEscapeInvalid => "invalid escape sequence found in character class"
  | classRangeInvalid => "invalid character class range, the start must be <= the end"
  | classBoundInvalid => "invalid range boundary, must be a literal"
  | escapeUnfinished => "incomplete escape sequence, reached end of pattern prematurely"
  | escapeUnknown => "unrecognized escape sequence"
  | backreference => "backreferences are not supported"
  | hexEmpty => "hexadecimal literal empty"
  | hexInvalid => "hexadecimal literal is not a Unicode scalar value"
  | hexDigitInvalid => "invalid hexadecimal digit"
  | boundaryUnclosed =>
    "special word boundary assertion is either unclosed or contains an invalid character"
  | boundaryUnknown =>
    "unrecognized special word boundary assertion, valid choices are: start, end, start-half " ++
      "or end-half"
  | boundaryUnfinished =>
    "found either the beginning of a special word boundary or a bounded repetition on a \\b " ++
      "with an opening brace, but no closing brace"
  | propertyInvalid => "invalid Unicode character class"
  | propertyUnknown => "Unicode property not found"
  | propertyValueUnknown => "Unicode property value not found"
  | tooDeep limit => s!"exceed the maximum number of nested parentheses/brackets ({limit})"
  | unicodeExcluded => "Unicode not allowed here"
  | notUtf8 => "pattern can match invalid UTF-8"

/-- A flaw and the part of the pattern that has it, with another part that takes a share in it. -/
structure Problem where
  flaw : Flaw
  span : Span
  other : Option Span
  deriving DecidableEq

namespace Problem

/-- Both parts, in their order. -/
def spans (p : Problem) : List Span :=
  match p.other with
  | none => [p.span]
  | some other => if p.span.start.le other.start then [p.span, other] else [other, p.span]

/-- The lines of a pattern, without what ends them. -/
def lines (pattern : List Char) : List (List Char) :=
  let pieces := Search.parts '\n' pattern
  let ended := pieces.dropLast.map fun line =>
    if line.getLast? = some '\r' then line.dropLast else line
  match pieces.getLast? with
  | none | some [] => ended
  | some last => ended ++ [last]

/-- Marks under some parts of a line: one under each character, and at least one for each part. -/
def marks (spans : List Span) : List Char :=
  spans.foldl (fun done span =>
    let gap := span.start.column - 1 - done.length
    done ++ List.replicate gap ' ' ++
      List.replicate (max 1 (span.stop.column - span.start.column)) '^') []

/-- Some lines of a pattern with marks under them, behind margins. -/
def marked (p : Problem) (margin : Nat → List Char) (lines : List (List Char)) : List (List Char) :=
  (lines.zipIdx 1).flatMap fun (line, n) =>
    let here := p.spans.filter fun span => span.start.line = n ∧ span.stop.line = n
    let row := margin n ++ line
    if here = [] then [row] else [row, List.replicate (margin n).length ' ' ++ marks here]

/-- The number of a line in front of it. -/
def lineNumber (width n : Nat) : List Char :=
  let digits := Nat.toDigits 10 n
  List.replicate (width - digits.length) ' ' ++ digits ++ [':', ' ']

/-- The sentence for a part that goes over several lines. -/
def acrossLines (span : Span) : String :=
  s!"on line {span.start.line} (column {span.start.column}) through " ++
    s!"line {span.stop.line} (column {span.stop.column - 1})"

/-- How a problem with a pattern is told. -/
def report (pattern : List Char) (p : Problem) : String :=
  let shown := lines pattern
  let rows :=
    if '\n' ∈ pattern then
      let count := shown.length + if pattern.getLast? = some '\n' then 1 else 0
      let rule := "".pushn '~' 79
      let width := (Nat.toDigits 10 count).length
      let across := p.spans.filter fun span => span.start.line ≠ span.stop.line
      rule :: (p.marked (lineNumber width) shown).map String.ofList ++ rule ::
        across.map acrossLines
    else (p.marked (fun _ => [' ', ' ', ' ', ' ']) shown).map String.ofList
  "\n".intercalate ("regex parse error:" :: rows ++ ["error: " ++ p.flaw.message])

end Problem

end Dealias.Regex
