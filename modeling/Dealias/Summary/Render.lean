import Dealias.Json.Value
import Dealias.Sink
import Dealias.Summary

/-!
# Rendering a summary

A summary is shown as its sentence, or as a JSON object with its counts, the changed paths and the
sentence.  JSON needs every changed path to be a text.  The rendered summary is written with one
newline behind it, or not at all if it cannot be rendered.
-/

namespace Dealias

/-- How a summary is shown. -/
inductive Format
  | text
  | json
  deriving DecidableEq, Repr

namespace Summary

/-- The paths as texts, if they all are. -/
def pathTexts : List Path → Except SystemError (List String)
  | [] => .ok []
  | p :: rest =>
    match p.text? with
    | none => .error .summaryRender
    | some text => (pathTexts rest).map (text :: ·)

/-- The summary as a JSON value. -/
def toValue (s : Summary) : Except SystemError Json.Value :=
  (pathTexts s.changed).map fun paths =>
    .object
      [("scanned", .natural s.scanned),
       ("changed", .list (paths.map .text)),
       ("occurrences", .natural s.occurrences),
       ("dry_run", .bool s.dryRun),
       ("message", .text s.message)]

/-- The summary as it is shown. -/
def render (s : Summary) : Format → Except SystemError String
  | .text => .ok s.message
  | .json => s.toValue.map fun value => String.ofList (Json.pretty 0 value)

/-- What came of writing a summary: the bytes that arrived, and the failure if there was one. -/
structure Writing where
  bytes : List UInt8
  failure? : Option Failure

/-- Writes the summary and a newline. -/
def write (s : Summary) (format : Format) (sink : Sink) : Writing :=
  match s.render format with
  | .error e => ⟨[], some (.system e)⟩
  | .ok rendered =>
    let written := sink.writePieces [Text.bytes rendered, Text.bytes "\n"]
    ⟨written.bytes, written.fault?.map fun fault => .system (.summaryWrite fault)⟩

end Summary

end Dealias
