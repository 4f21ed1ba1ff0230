import Dealias.Proofs.FirstFault

/-!
# Running again

A path is settled when its text can be read and holds no reference.  Handling any file keeps the
settled paths as they are, and with a plain pattern it settles its own.  So the store behind a
stretch is settled at every path of the stretch, whatever was handled how often and at which depth,
and a stretch over settled paths changes nothing.

A second run therefore writes nothing.  And a run that was aborted can be taken up again: over the
files that were done it passes without a change, and from there on it does what the run without
faults would have done.
-/

namespace Dealias.Memory

variable {entries others : List Entry} {faults : Faults} {pattern : Alias}
  {dryRun progress : Bool} {store next final : Store} {entry : Entry} {path : Path}

/-- The text at a path can be read and holds no reference. -/
def Settled (faults : Faults) (pattern : Alias) (store : Store) (path : Path) : Prop :=
  faults.read path = none ∧ ∃ text, store.get? path = some text ∧ ¬ pattern.Mentions text

/-- No fault on any path. -/
def faultless : Faults := {}

/-- Handling a file leaves all others as they are. -/
theorem fixFile_frame {events : List Event} {outcome : Outcome}
    (hfix : fixFile (access entries faults) pattern dryRun store entry =
      ⟨events, .ok (next, outcome)⟩) (hother : path ≠ entry.path) :
    next.get? path = store.get? path := by
  have hstep := fixFile_handling (access entries faults) pattern dryRun store entry
  rw [hfix] at hstep
  cases hstep with
  | clean => rfl
  | foretold => rfl
  | written _ _ _ hwrite =>
      obtain ⟨-, rfl⟩ := write_eq_ok_iff.1 hwrite
      rw [Table.get?_set, if_neg (Ne.symm hother)]

/-- A settled file is read and left alone. -/
theorem Settled.fixFile_eq (h : Settled faults pattern store entry.path) :
    fixFile (access entries faults) pattern dryRun store entry =
      ⟨[.read entry.path], .ok (store, .unchanged)⟩ := by
  obtain ⟨hread, text, htext, habsent⟩ := h
  have hok : (access entries faults).read store entry.path = .ok text :=
    read_eq_ok_iff.2 ⟨hread, htext⟩
  exact (Handling.clean hok (Alias.rewrite_eq_unchanged_iff.2 habsent)).fixFile_eq

/-- A settled path stays settled. -/
theorem Settled.fixFile {events : List Event} {outcome : Outcome}
    (h : Settled faults pattern store path)
    (hfix : fixFile (access entries faults) pattern dryRun store entry =
      ⟨events, .ok (next, outcome)⟩) : Settled faults pattern next path := by
  by_cases hpath : path = entry.path
  · subst hpath
    rw [h.fixFile_eq] at hfix
    cases hfix
    exact h
  · obtain ⟨hread, text, htext, habsent⟩ := h
    exact ⟨hread, text, (fixFile_frame hfix hpath).trans htext, habsent⟩

/-- With a plain pattern a file is settled when it is done. -/
theorem settled_of_fixFile (hplain : pattern.Plain) {events : List Event} {outcome : Outcome}
    (hfix : fixFile (access entries faults) pattern false store entry =
      ⟨events, .ok (next, outcome)⟩) : Settled faults pattern next entry.path := by
  have hstep := fixFile_handling (access entries faults) pattern false store entry
  rw [hfix] at hstep
  cases hstep with
  | clean hread hrewrite =>
      obtain ⟨hfault, htext⟩ := read_eq_ok_iff.1 hread
      exact ⟨hfault, _, htext, Alias.rewrite_eq_unchanged_iff.1 hrewrite⟩
  | foretold _ _ hdry => cases hdry
  | @written text new n next hread hrewrite _ hwrite =>
      obtain ⟨-, rfl⟩ := write_eq_ok_iff.1 hwrite
      refine ⟨(read_eq_ok_iff.1 hread).1, new, ?_, hplain.not_mentions hrewrite⟩
      rw [Table.get?_set, if_pos rfl]

/-- A settled path stays settled along a stretch. -/
theorem Settled.stretch {done : Account} {events : List Event}
    (h : Settled faults pattern store path)
    (hstretch : Stretch (access others faults) pattern dryRun progress store entries final done
      events) : Settled faults pattern final path := by
  induction hstretch with
  | nil => exact h
  | cons hfix _ ih => exact ih (h.fixFile hfix)

/-- **A stretch settles its files.** -/
theorem settled_of_stretch (hplain : pattern.Plain) {done : Account} {events : List Event}
    (hstretch : Stretch (access others faults) pattern false progress store entries final done
      events) (hmem : entry ∈ entries) : Settled faults pattern final entry.path := by
  induction hstretch with
  | nil => cases hmem
  | cons hfix tail ih =>
      rcases List.mem_cons.1 hmem with rfl | hrest
      · exact (settled_of_fixFile hplain hfix).stretch tail
      · exact ih hrest

/-- **A stretch over settled files changes nothing.** -/
theorem stretch_of_settled (others : List Entry) (dryRun progress : Bool)
    (hsettled : ∀ entry ∈ entries, Settled faults pattern store entry.path) :
    ∃ done events,
      Stretch (access others faults) pattern dryRun progress store entries store done events ∧
      done.changed = [] ∧ done.occurrences = 0 := by
  induction entries with
  | nil => exact ⟨[], [], .nil store, rfl, rfl⟩
  | cons entry rest ih =>
      obtain ⟨done, events, h, hchanged, hoccurrences⟩ :=
        ih fun later hlater => hsettled later (List.mem_cons_of_mem _ hlater)
      have hfix : fixFile (access others faults) pattern dryRun store entry = _ :=
        (hsettled entry List.mem_cons_self).fixFile_eq
      refine ⟨(entry.path, .unchanged) :: done, _, .cons hfix h, ?_, ?_⟩
      · simpa [Account.changed, Outcome.isModified] using hchanged
      · simpa [Account.occurrences, Outcome.occurrences] using hoccurrences

/-- The stretch of a run that succeeds. -/
theorem exists_stretch_of_run_ok {config : Config} {summary : Summary}
    (hresult : (run (access entries faults) config progress store).result = .ok summary) :
    ∃ final done events,
      Stretch (access entries faults) config.pattern config.dryRun progress store
        (config.suffix.candidates entries) final done events ∧
      faults.walk = none ∧ (run (access entries faults) config progress store).store = final ∧
      summary = (Summary.empty config.dryRun).after done := by
  obtain ⟨found, notes, done, events, hwalk, h, hsummary⟩ := exists_stretch_of_ok hresult
  obtain ⟨-, rfl, hfaults⟩ := of_walk_eq_ok hwalk
  exact ⟨_, done, events, h, hfaults, rfl, hsummary⟩

/-- **A second run changes nothing.**  When a run with a plain pattern succeeds, the next one over
the same entries succeeds too, puts nothing back, leaves the store as it is, and counts as many
candidates but no change. -/
theorem second_run_changes_nothing (entries : List Entry) (faults : Faults) (config : Config)
    (progress : Bool) (store : Store) (summary : Summary) (hplain : config.pattern.Plain)
    (hdry : config.dryRun = false)
    (hfirst : (run (access entries faults) config progress store).result = .ok summary) :
    let first := run (access entries faults) config progress store
    let second := run (access entries faults) config progress first.store
    second.result = .ok ⟨summary.scanned, [], 0, false⟩ ∧ second.store = first.store ∧
      second.events.filterMap Event.write? = [] := by
  intro first second
  obtain ⟨final, done, events, h, hfaults, hfinal, rfl⟩ := exists_stretch_of_run_ok hfirst
  rw [hdry] at h
  have hsettled : ∀ entry ∈ config.suffix.candidates entries,
      Settled faults config.pattern final entry.path :=
    fun entry hmem => settled_of_stretch hplain h hmem
  obtain ⟨done', events', h', hchanged, hoccurrences⟩ :=
    stretch_of_settled entries config.dryRun progress hsettled
  have hsecond := (Ending.finished (walk_eq_ok hfaults) h').run_eq
  have hwrites := h'.run_writes (walk_eq_ok hfaults)
  have hsame : second = run (access entries faults) config progress final := by
    rw [← hfinal]
  rw [hsame]
  refine ⟨?_, ?_, ?_⟩
  · rw [hsecond, Summary.after_eq, Summary.after_eq, h.length_eq, h'.length_eq, hchanged,
      hoccurrences, hdry]
    rfl
  · rw [hsecond]
    exact hfinal.symm
  · rw [hwrites, hchanged, hdry]
    rfl

/-- The usual run over a file found twice and another one, made twice. -/
theorem second_run_changes_nothing_sample :
    let first := run (access sampleEntries faultless) (.standard (.ofText "d")) true sampleStore
    let second := run (access sampleEntries faultless) (.standard (.ofText "d")) true first.store
    second.result = .ok ⟨3, [], 0, false⟩ ∧ second.store = first.store ∧
      second.events.filterMap Event.write? = [] :=
  second_run_changes_nothing sampleEntries faultless (.standard (.ofText "d")) true sampleStore
    ⟨3, [.ofText "a.js", .ofText "s/b.js"], 3, false⟩ Alias.plain_standard rfl rfl

/-! ## Taking up an aborted run -/

/-- What was done under faults is done without them. -/
theorem stretch_faultless {done : Account} {events : List Event}
    (h : Stretch (access others faults) pattern dryRun progress store entries final done events) :
    Stretch (access others faultless) pattern dryRun progress store entries final done events := by
  induction h with
  | nil store => exact .nil store
  | @cons store next _ entry _ _ _ events _ hfix _ ih =>
      refine .cons (Eq.trans ?_ hfix) ih
      have hstep := fixFile_handling (access others faults) pattern dryRun store entry
      have hfaultless : ∀ {text : String},
          (access others faults).read store entry.path = .ok text →
          (access others faultless).read store entry.path = .ok text :=
        fun hread => read_eq_ok_iff.2 ⟨rfl, (read_eq_ok_iff.1 hread).2⟩
      rw [hfix] at hstep ⊢
      cases hstep with
      | clean hread hrewrite => exact (Handling.clean (hfaultless hread) hrewrite).fixFile_eq
      | foretold hread hrewrite hdry =>
          exact (Handling.foretold (hfaultless hread) hrewrite hdry).fixFile_eq
      | written hread hrewrite hdry hwrite =>
          have hput : (access others faultless).write store entry.path _ = .ok next :=
            write_eq_ok_iff.2 ⟨rfl, (write_eq_ok_iff.1 hwrite).2⟩
          exact (Handling.written (hfaultless hread) hrewrite hdry hput).fixFile_eq

/-- No fault lies on writing a file that was changed. -/
theorem write_eq_none_of_changed {done : Account} {events : List Event}
    (h : Stretch (access others faults) pattern false progress store entries final done events)
    (hmem : path ∈ done.changed) : faults.write path = none := by
  induction h with
  | nil => cases hmem
  | @cons store _ _ entry _ outcome done _ _ hfix _ ih =>
      have hstep := fixFile_handling (access others faults) pattern false store entry
      rw [hfix] at hstep
      cases hstep with
      | clean => exact ih hmem
      | foretold _ _ hdry => cases hdry
      | written _ _ _ hwrite =>
          rcases List.mem_cons.1 hmem with rfl | hrest
          · exact (write_eq_ok_iff.1 hwrite).1
          · exact ih hrest

/-- What was put back in a stretch and up to the file that fails behind it. -/
theorem putBack_of_stop {done : Account} {events failed : List Event} {e : SystemError}
    (h : Stretch (access others faults) pattern false progress store entries final done events)
    (hfix : fixFile (access others faults) pattern false final entry = ⟨failed, .error e⟩) :
    ((events ++ failed).filterMap Event.write?).filter (fun p => faults.write p = none) =
        done.changed ∧
      ((events ++ failed).filterMap Event.putBack?).sum = done.occurrences := by
  obtain ⟨hstruck, -, hwrites, hputBack, -⟩ := fixFile_eq_error hfix
  have hkept : done.changed.filter (fun p => faults.write p = none) = done.changed :=
    List.filter_eq_self.2 fun p hp => by simpa using write_eq_none_of_changed h hp
  have hlost : e.write?.toList.filter (fun p => faults.write p = none) = [] := by
    cases hstruck with
    | reading => rfl
    | missing => rfl
    | writing _ _ _ _ hwrite => simp [SystemError.write?, hwrite]
  constructor
  · rw [List.filterMap_append, h.writes, hwrites, List.filter_append, hlost, List.append_nil]
    exact hkept
  · rw [List.filterMap_append, hputBack, List.append_nil, h.sum_putBack]

/-- A run that was aborted has made a stretch over its first candidates, and put back what was
changed there. -/
theorem exists_stretch_of_abort {config : Config} (hdry : config.dryRun = false)
    (habort : ∃ path cause, (run (access entries faults) config progress store).result =
      .error (.stopped (.fixing path) cause)) :
    let aborted := run (access entries faults) config progress store
    ∃ before rest done events, config.suffix.candidates entries = before ++ rest ∧
      Stretch (access entries faults) config.pattern false progress store before aborted.store done
        events ∧
      (aborted.events.filterMap Event.write?).filter (fun p => faults.write p = none) =
        done.changed ∧
      (aborted.events.filterMap Event.putBack?).sum = done.occurrences := by
  obtain ⟨path, cause, habort⟩ := habort
  obtain ⟨before, entry, after, e, hfirst⟩ := exists_firstStruck habort
  obtain ⟨middle, done, events, failed, h, hfix, hfaults⟩ := hfirst.exists_stretch
  have haborted := (Ending.stopped (walk_eq_ok hfaults) hfirst.split h hfix).run_eq
  rw [hdry] at h hfix
  rw [haborted]
  obtain ⟨hputBack, hcount⟩ := putBack_of_stop h hfix
  exact ⟨before, _, done, events, hfirst.split, h, hputBack, hcount⟩

/-- **A run that was aborted can be taken up again.**  When a run with a plain pattern fails while
fixing, and the same run without faults would have succeeded, then a run without faults from the
store that was left ends in the very store of the run without faults.  What the aborted run has
put back and what is changed now are together, in order, what that run changes.  For the files in
front of the fault are settled, and the resumed run passes over them. -/
theorem resumed_run_completes (entries : List Entry) (faults : Faults) (config : Config)
    (progress : Bool) (store : Store) (whole : Summary) (hplain : config.pattern.Plain)
    (hdry : config.dryRun = false)
    (habort : ∃ path cause, (run (access entries faults) config progress store).result =
      .error (.stopped (.fixing path) cause))
    (hwhole : (run (access entries faultless) config progress store).result = .ok whole) :
    let aborted := run (access entries faults) config progress store
    let uninterrupted := run (access entries faultless) config progress store
    let resumed := run (access entries faultless) config progress aborted.store
    ∃ rest : Summary, resumed.result = .ok rest ∧ resumed.store = uninterrupted.store ∧
      rest.scanned = whole.scanned ∧
      (aborted.events.filterMap Event.write?).filter (fun p => faults.write p = none) ++
        rest.changed = whole.changed ∧
      (aborted.events.filterMap Event.putBack?).sum + rest.occurrences = whole.occurrences := by
  intro aborted uninterrupted resumed
  obtain ⟨before, after, done, events, hsplit, h, hputBack, hcount⟩ :=
    exists_stretch_of_abort hdry habort
  obtain ⟨final, all, past, hall, -, hfinal, rfl⟩ := exists_stretch_of_run_ok hwhole
  rw [hsplit, hdry] at hall
  obtain ⟨middle, done', later, past', rest, rfl, hdone, hlater⟩ := hall.split
  obtain ⟨rfl, rfl, -⟩ := (stretch_faultless h).unique hdone
  obtain ⟨again, passed, hagain, hchanged, hoccurrences⟩ :=
    stretch_of_settled entries false progress fun file hmem => settled_of_stretch hplain hdone hmem
  have hrest := hagain.append hlater
  rw [← hsplit, ← hdry] at hrest
  have hresumed : resumed = _ := (Ending.finished (walk_eq_ok rfl) hrest).run_eq
  have hlength := hagain.length_eq.trans h.length_eq.symm
  refine ⟨(Summary.empty config.dryRun).after (again ++ later), ?_, ?_, ?_, ?_, ?_⟩
  · rw [hresumed]
  · rw [hresumed]
    exact hfinal.symm
  · simp [Summary.after_eq, hlength]
  · rw [hputBack]
    simp [Summary.after_eq, Account.changed_append, hchanged, Summary.empty]
  · rw [hcount]
    simp [Summary.after_eq, Account.occurrences_append, hoccurrences, Summary.empty]

/-- The run that could not put one file back, taken up again. -/
theorem resumed_run_completes_sample :
    let aborted :=
      run (access sampleEntries { write := sampleWrite }) (.standard (.ofText "d")) true sampleStore
    let uninterrupted :=
      run (access sampleEntries faultless) (.standard (.ofText "d")) true sampleStore
    let resumed := run (access sampleEntries faultless) (.standard (.ofText "d")) true aborted.store
    ∃ rest : Summary, resumed.result = .ok rest ∧ resumed.store = uninterrupted.store ∧
      rest.scanned = 3 ∧
      (aborted.events.filterMap Event.write?).filter (fun p => sampleWrite p = none) ++
        rest.changed = [.ofText "a.js", .ofText "s/b.js"] ∧
      (aborted.events.filterMap Event.putBack?).sum + rest.occurrences = 3 :=
  resumed_run_completes sampleEntries { write := sampleWrite } (.standard (.ofText "d")) true
    sampleStore ⟨3, [.ofText "a.js", .ofText "s/b.js"], 3, false⟩ Alias.plain_standard rfl
    ⟨_, _, rfl⟩ rfl

end Dealias.Memory
