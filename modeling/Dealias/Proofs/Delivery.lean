import Mathlib
import Dealias.Program
import Dealias.Proofs.Rendering

/-!
# Deliveries

Whatever the pieces are that a sink takes at once, it takes the bytes in their order, none of them
twice and none of them left out, up to its limit.  So neither how the bytes were cut up for it nor
how it cuts them up itself plays a part (`Sink.writeAll_eq`, `Sink.writePieces_eq_writeAll`), and of
a summary and its newline the first bytes arrive, as many as there is room for
(`Summary.write_delivers`).

The number of bytes offered falls from one piece to the next, and of a single byte no part can be
taken.  So the stride of a sink, which goes by the number offered, is any row of pieces there can
be.  To be interrupted is not to refuse: what was interrupted is offered again.
-/

namespace Dealias

namespace Sink

variable {sink : Sink} {n m : Nat}

/-- How many of some bytes a sink takes in all, piece by piece. -/
def admits (sink : Sink) (offered : Nat) : Nat :=
  match sink.room with
  | none => offered
  | some room => min offered room

theorem admits_of_unlimited (hroom : sink.room = none) (n : Nat) : sink.admits n = n := by
  simp only [admits, hroom]

/-- With a limit as much is taken as there is room for. -/
theorem admits_of_limited {room : Nat} (hroom : sink.room = some room) (n : Nat) :
    sink.admits n = min n room := by
  simp only [admits, hroom]

/-- No more is taken than is offered. -/
theorem admits_le (sink : Sink) (n : Nat) : sink.admits n ≤ n := by
  cases hroom : sink.room with
  | none => exact Nat.le_of_eq (admits_of_unlimited hroom n)
  | some room =>
      rw [admits_of_limited hroom]
      omega

/-- At once a sink takes no more than its stride, and nothing only if it takes nothing in all. -/
theorem takes_eq (sink : Sink) (n : Nat) :
    sink.takes n = min (sink.admits n) (sink.stride n + 1) := by
  cases hroom : sink.room with
  | none => simp only [takes, admits, hroom]
  | some room =>
      simp only [takes, admits, hroom]
      omega

@[simp]
theorem fault_after (sink : Sink) (n : Nat) : (sink.after n).fault = sink.fault := rfl

@[simp]
theorem after_zero (sink : Sink) : sink.after 0 = sink := by
  cases sink
  simp [after]

/-- What is taken in two parts takes up the room of both. -/
theorem after_after (sink : Sink) (n m : Nat) : (sink.after n).after m = sink.after (n + m) := by
  simp only [after, Option.map_map]
  congr 2
  funext room
  simp only [Function.comp_apply]
  omega

theorem after_of_unlimited (hroom : sink.room = none) (n : Nat) : sink.after n = sink := by
  cases sink
  simp_all [after]

/-- What a sink took it does not take again. -/
theorem admits_after (sink : Sink) (n m : Nat) :
    (sink.after m).admits (n - m) = sink.admits n - m := by
  cases hroom : sink.room with
  | none => rw [after_of_unlimited hroom, admits_of_unlimited hroom, admits_of_unlimited hroom]
  | some room =>
      have hleft : (sink.after m).room = some (room - m) := by simp [after, hroom]
      rw [admits_of_limited hleft, admits_of_limited hroom]
      omega

/-- What a sink takes in full leaves the rest of its room to what follows. -/
theorem admits_add (h : sink.admits n = n) (m : Nat) :
    sink.admits (n + m) = n + (sink.after n).admits m := by
  have hafter := sink.admits_after (n + m) n
  have hroom : n ≤ sink.admits (n + m) := by
    cases hroom : sink.room with
    | none =>
        rw [admits_of_unlimited hroom]
        omega
    | some room =>
        rw [admits_of_limited hroom] at h ⊢
        omega
  rw [Nat.add_sub_cancel_left] at hafter
  omega

/-- A sink that does not take everything takes no more when there is more. -/
theorem admits_add_of_lt (h : sink.admits n < n) (m : Nat) :
    sink.admits (n + m) = sink.admits n := by
  cases hroom : sink.room with
  | none =>
      rw [admits_of_unlimited hroom] at h
      omega
  | some room =>
      rw [admits_of_limited hroom] at h
      rw [admits_of_limited hroom, admits_of_limited hroom]
      omega

/-- **A sink takes the first bytes**, and refuses if these are not all.  The induction is along the
rounds of the loop, each of which takes one piece of what is left. -/
theorem writeAll_eq (sink : Sink) (bytes : List UInt8) :
    sink.writeAll bytes =
      ⟨bytes.take (sink.admits bytes.length), sink.after (sink.admits bytes.length),
        if bytes.length ≤ sink.admits bytes.length then none else some sink.fault⟩ := by
  fun_induction writeAll sink bytes with
  | case1 sink =>
      have hnone : sink.admits 0 = 0 := Nat.le_zero.1 (sink.admits_le 0)
      simp [hnone]
  | case2 sink bytes hbytes n hn =>
      have hnone : sink.admits bytes.length = 0 := by
        have htakes := sink.takes_eq bytes.length
        omega
      have hlength := List.length_pos_iff.2 hbytes
      have hleft : ¬ bytes.length ≤ 0 := by omega
      simp only [hnone, List.take_zero, after_zero, if_neg hleft]
  | case3 sink bytes hbytes n hn rest ih =>
      have hpiece : n ≤ sink.admits bytes.length := by
        have htakes := sink.takes_eq bytes.length
        omega
      have hall : n + (sink.admits bytes.length - n) = sink.admits bytes.length := by omega
      have hadmits :
          (sink.after n).admits (bytes.drop n).length = sink.admits bytes.length - n := by
        rw [List.length_drop, admits_after]
      rw [hadmits] at ih
      have htaken : bytes.take n ++ (bytes.drop n).take (sink.admits bytes.length - n) =
          bytes.take (sink.admits bytes.length) := by
        rw [← List.take_add, hall]
      have hfault : (bytes.drop n).length ≤ sink.admits bytes.length - n ↔
          bytes.length ≤ sink.admits bytes.length := by
        rw [List.length_drop]
        omega
      simp only [rest, ih, htaken, after_after, hall, hfault, fault_after]

/-- **How the bytes are cut up makes no difference.**  Either a piece arrives in full and the sink is
offered the others after it, or the sink refuses within the piece and is offered no more. -/
theorem writePieces_eq_writeAll (sink : Sink) (pieces : List (List UInt8)) :
    sink.writePieces pieces = sink.writeAll pieces.flatten := by
  induction pieces generalizing sink with
  | nil => simp [writePieces, writeAll]
  | cons piece rest ih =>
      have hlength : (piece ++ rest.flatten).length = piece.length + rest.flatten.length :=
        List.length_append
      rw [writePieces, List.flatten_cons]
      by_cases hall : piece.length ≤ sink.admits piece.length
      · have hfull : sink.admits piece.length = piece.length :=
          Nat.le_antisymm (sink.admits_le _) hall
        have hadmits := admits_add hfull rest.flatten.length
        simp only [writeAll_eq, ih, hlength, hadmits, hfull, List.take_length, after_after,
          List.take_length_add_append, Nat.add_le_add_iff_left, fault_after, Nat.le_refl, if_true]
      · have hadmits := admits_add_of_lt (Nat.lt_of_not_le hall) rest.flatten.length
        have hpiece : sink.admits piece.length - piece.length = 0 := by omega
        have hleft : ¬ piece.length + rest.flatten.length ≤ sink.admits piece.length := by omega
        simp only [writeAll_eq, hlength, hadmits, if_neg hall, if_neg hleft, List.take_append,
          hpiece, List.take_zero, List.append_nil]

/-- A sink without a limit takes everything. -/
theorem writeAll_of_unlimited (hroom : sink.room = none) (bytes : List UInt8) :
    sink.writeAll bytes = ⟨bytes, sink, none⟩ := by
  rw [writeAll_eq, admits_of_unlimited hroom, after_of_unlimited hroom, List.take_length,
    if_pos (Nat.le_refl _)]

end Sink

namespace Summary

variable {s : Summary} {format : Format} {sink : Sink} {room : Nat} {rendered : String}
  {whole : List UInt8} {e : SystemError}

/-- What came of writing, with a note in front of the failure if there was one. -/
def Writing.inContext (note : String) (writing : Writing) : Writing :=
  { writing with failure? := writing.failure?.map (.context note) }

/-- Behind the note stands the same fault of the system. -/
theorem Writing.system?_inContext (note : String) (writing : Writing) :
    (writing.inContext note).failure?.bind Failure.system? =
      writing.failure?.bind Failure.system? := by
  unfold inContext
  cases writing.failure? <;> rfl

/-- A summary that cannot be rendered is not written. -/
theorem write_of_error (hrender : s.render format = .error e) (sink : Sink) :
    s.write format sink = ⟨[], some (.system e)⟩ := by
  simp only [write, hrender]

/-- A rendered summary and its newline are written as one. -/
theorem write_of_ok (hrender : s.render format = .ok rendered)
    (hwhole : whole = Text.bytes rendered ++ Text.bytes "\n") (sink : Sink) :
    s.write format sink =
      ⟨(sink.writeAll whole).bytes,
        (sink.writeAll whole).fault?.map fun fault => .system (.summaryWrite fault)⟩ := by
  have hpieces : [Text.bytes rendered, Text.bytes "\n"].flatten = whole := by
    simp [hwhole]
  simp only [write, hrender, Sink.writePieces_eq_writeAll, hpieces]

/-- A sink without a limit gets the whole summary and its newline. -/
theorem write_of_unlimited (hrender : s.render format = .ok rendered) (hroom : sink.room = none) :
    s.write format sink = ⟨Text.bytes rendered ++ Text.bytes "\n", none⟩ := by
  rw [write_of_ok hrender rfl, Sink.writeAll_of_unlimited hroom]
  rfl

/-- A sink with a limit gets the first bytes of the summary and its newline, and refuses if these
are not all. -/
theorem write_of_limited (hrender : s.render format = .ok rendered) (hroom : sink.room = some room)
    (hwhole : whole = Text.bytes rendered ++ Text.bytes "\n") :
    s.write format sink =
      ⟨whole.take (min room whole.length), if whole.length ≤ room then none
        else some (.system (.summaryWrite (sink.refusal.getD .unfinished)))⟩ := by
  have hadmits : sink.admits whole.length = min room whole.length := by
    rw [Sink.admits_of_limited hroom, Nat.min_comm]
  have hfits : whole.length ≤ min room whole.length ↔ whole.length ≤ room := by omega
  simp only [write_of_ok hrender hwhole, Sink.writeAll_eq, hadmits, hfits, Sink.fault]
  split <;> rfl

/-- **Of a summary and its newline the first bytes arrive**, as many as the sink takes, and writing
fails exactly if these are not all; nothing arrives of what cannot be rendered.  A note in front of
the failure hides nothing. -/
theorem write_delivers (s : Summary) (format : Format) (sink : Sink) (note : String)
    (hroom : sink.room = some room) :
    (∀ e, s.render format = .error e →
      e = .summaryRender ∧ s.write format sink = ⟨[], some (.system .summaryRender)⟩) ∧
    (∀ rendered, s.render format = .ok rendered →
      let whole := Text.bytes rendered ++ Text.bytes "\n"
      (s.write format sink).bytes = whole.take (min room whole.length) ∧
      ((s.write format sink).failure? = none ↔ whole.length ≤ room) ∧
      (room < whole.length → (s.write format sink).failure? =
        some (.system (.summaryWrite (sink.refusal.getD .unfinished))))) ∧
    ((s.write format sink).inContext note).bytes = (s.write format sink).bytes ∧
    ((s.write format sink).inContext note).failure?.bind Failure.system? =
      (s.write format sink).failure?.bind Failure.system? := by
  refine ⟨?_, ?_, rfl, Writing.system?_inContext note _⟩
  · intro e hrender
    obtain ⟨rfl, -⟩ := render_eq_error_iff.1 hrender
    exact ⟨rfl, write_of_error hrender sink⟩
  · intro rendered hrender whole
    rw [write_of_limited hrender hroom (rfl : whole = _)]
    refine ⟨rfl, ?_, ?_⟩
    · by_cases hfits : whole.length ≤ room <;> simp [hfits]
    · intro hover
      exact if_neg (Nat.not_le.2 hover)

/-- A sink that takes three bytes at once, and all but the newline. -/
theorem write_delivers_unended :
    let s : Summary := ⟨5, [.ofText "dist/a.js", .ofText "dist/sub/b.js"], 3, false⟩
    let sink : Sink := ⟨some 21, fun _ => 2, none⟩
    sink.room = some 21 ∧ (s.write .text sink).bytes = Text.bytes "Fixed 2 files (of 5)." ∧
      ((s.write .text sink).inContext "failed to print summary").failure?.bind Failure.system? =
        some (.summaryWrite .unfinished) := by
  intro s sink
  have hroom : sink.room = some 21 := rfl
  obtain ⟨-, hdelivers, -, hsystem⟩ :=
    write_delivers s .text sink "failed to print summary" hroom
  have hrender : s.render .text = .ok "Fixed 2 files (of 5)." := by
    cbv
  obtain ⟨hbytes, -, hfailure⟩ := hdelivers _ hrender
  refine ⟨hroom, hbytes.trans (by cbv), ?_⟩
  rw [hsystem, hfailure (by decide)]
  rfl

end Summary

namespace Program

variable {here : Disk.Location} {options : Options} {config : Config} {disk : Disk}
  {summary : Summary}

/-- A session writes its summary with a note in front of the failure. -/
theorem runOptions_prints (stdout : Sink) (hconfig : options.config = .ok config)
    (hresult : (runConfig here config disk).result = .ok summary) :
    let printed := (summary.write config.format stdout).inContext "failed to print summary"
    (runOptions here options stdout disk).output = printed.bytes ∧
      (runOptions here options stdout disk).result =
        match printed.failure? with
        | none => .ok summary
        | some failure => .error ⟨[], failure⟩ := by
  intro printed
  simp only [runOptions, hconfig, hresult]
  refine ⟨rfl, ?_⟩
  cases hfailure : (summary.write config.format stdout).failure? <;>
    simp [printed, Summary.Writing.inContext, hfailure]

end Program

end Dealias
