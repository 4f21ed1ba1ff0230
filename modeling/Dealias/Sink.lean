import Dealias.Fault

/-!
# Sinks

A sink takes bytes until its room is used up, in pieces of its own choosing, and then refuses: it
reports a fault, or it takes nothing more without a word.  `Sink.writeAll` offers what is left again
and again until all is taken or the sink refuses.
-/

namespace Dealias

/-- Something that takes a limited number of bytes. -/
structure Sink where
  /-- How many bytes it still takes; with `none` there is no limit. -/
  room : Option Nat
  /-- How many bytes more than one it takes at once, by the number of bytes offered. -/
  stride : Nat → Nat
  /-- What it says once its room is used up. -/
  refusal : Option Fault

namespace Sink

/-- A sink that takes everything. -/
def unlimited : Sink := ⟨none, id, none⟩

/-- A sink that takes a number of bytes, as many at once as it is offered. -/
def limited (room : Nat) (refusal : Option Fault) : Sink := ⟨some room, id, refusal⟩

/-- The fault that a refusal is told as. -/
def fault (sink : Sink) : Fault :=
  sink.refusal.getD .unfinished

/-- How many of the bytes offered a sink takes at once. -/
def takes (sink : Sink) (offered : Nat) : Nat :=
  let piece := min offered (sink.stride offered + 1)
  match sink.room with
  | none => piece
  | some room => min piece room

/-- The sink after it took some bytes. -/
def after (sink : Sink) (taken : Nat) : Sink :=
  { sink with room := sink.room.map (· - taken) }

/-- What came of an attempt to write: the bytes that arrived, the sink, and the fault if not all of
them did. -/
structure Written where
  bytes : List UInt8
  sink : Sink
  fault? : Option Fault

/-- Writes all bytes, or as many as the sink takes. -/
def writeAll (sink : Sink) (bytes : List UInt8) : Written :=
  if _h : bytes = [] then ⟨[], sink, none⟩
  else
    let n := sink.takes bytes.length
    if _hn : n = 0 then ⟨[], sink, some sink.fault⟩
    else
      let rest := (sink.after n).writeAll (bytes.drop n)
      { rest with bytes := bytes.take n ++ rest.bytes }
termination_by bytes.length
decreasing_by
  have := List.length_pos_iff.2 _h
  simp only [List.length_drop]
  omega

/-- Writes one piece after the other, up to the first that does not arrive in full. -/
def writePieces (sink : Sink) : List (List UInt8) → Written
  | [] => ⟨[], sink, none⟩
  | piece :: rest =>
    let first := sink.writeAll piece
    match first.fault? with
    | some _ => first
    | none =>
      let later := first.sink.writePieces rest
      { later with bytes := first.bytes ++ later.bytes }

end Sink

end Dealias
