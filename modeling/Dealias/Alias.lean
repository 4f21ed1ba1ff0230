import Dealias.Depth
import Dealias.Failure
import Dealias.Search

/-!
# Alias patterns

An alias reference is a call followed at once by the marker that stands for the root.  A pattern
holds both parts; what is looked for is their concatenation, letter for letter.

A pattern is accepted when neither part is empty, the marker does not start with a dot, and its
compiled form stays within `Alias.sizeLimit`.  The rule on the dot makes every rewriting visible:
the dot segments that replace the marker differ from it in their first character.
-/

namespace Dealias

/-- The largest compiled pattern, in bytes. -/
def Alias.sizeLimit : Nat := 10485760

/-- The size of a compiled pattern: 32 bytes for each byte of its literal, and 208 around it. -/
def Alias.compiledSize (literal : String) : Nat := 32 * literal.utf8ByteSize + 208

/-- A call and the marker behind it, as accepted. -/
structure Alias where
  call : String
  marker : String
  call_ne : call ≠ ""
  marker_ne : marker ≠ ""
  marker_dot : marker.toList.head? ≠ some '.'
  fits : Alias.compiledSize (call ++ marker) ≤ Alias.sizeLimit

namespace Alias

/-- The pattern of a call and a marker, or the first flaw that they have. -/
def ofParts (call marker : String) : Except ConfigError Alias :=
  let refuse (flaw : PatternFlaw) := Except.error (.invalidPattern (call ++ marker) flaw)
  if hc : call = "" then refuse .emptyCall
  else if hm : marker = "" then refuse .emptyMarker
  else if hd : marker.toList.head? = some '.' then refuse .dottedMarker
  else if hs : compiledSize (call ++ marker) ≤ sizeLimit then .ok ⟨call, marker, hc, hm, hd, hs⟩
  else refuse (.tooLarge sizeLimit)

/-- The text that a reference starts with. -/
def literal (a : Alias) : String := a.call ++ a.marker

/-- The byte positions of all references in a text, from left to right. -/
def find (a : Alias) (text : String) : List Search.Span :=
  Search.spans (Text.bytes a.literal) (Text.bytes text)

/-- The text with the marker of every reference replaced by the way to the root. -/
def substitute (a : Alias) (text : String) (depth : Depth) : String :=
  String.ofList <|
    Search.replace a.literal.toList (a.call.toList ++ depth.ascent) text.toList

end Alias

/-- What became of a text. -/
inductive Rewrite
  | unchanged
  | rewritten (text : String) (occurrences : Nat)
  deriving DecidableEq, Repr

/-- Rewrites all references of a text that stands at the given depth. -/
def Alias.rewrite (a : Alias) (text : String) (depth : Depth) : Rewrite :=
  match a.find text with
  | [] => .unchanged
  | spans => .rewritten (a.substitute text depth) spans.length

end Dealias
