import Dealias.Proofs.Lockstep
import Dealias.Proofs.Separate

/-!
# The trace of a run in memory

What a run asks of the walk and the store, and what it reports, without the notes for the log: that
is its trace.  It begins with the walk.  Then come the candidates one after the other, each with
what its own text asks for (`Done.trace`), up to the end or to a request that fails (`Closing`).

The trace, the store and the summary are three records of one loop.  The store is what the requests
of the trace make of the one before (`Store.replay`), every text is the one that it holds at that
point, and the summary counts what the trace reports (`trace_records_run`).  Who watches the
progress changes none of this: a run that is not watched is one that is, without the reports
(`fixAll_unwatched`).
-/

namespace Dealias

/-- Is the event a request or a report? -/
def Event.isTraced (e : Event) : Bool := e.isCall || e.isProgress

/-! ## Watching -/

/-- **Who watches changes nothing but the reports.** -/
theorem fixAll_unwatched {σ : Type} (access : Access σ) (pattern : Alias) (dryRun : Bool)
    (store : σ) (summary : Summary) (entries : List Entry) :
    let watched := fixAll access pattern dryRun true store summary entries
    fixAll access pattern dryRun false store summary entries =
      ⟨watched.events.filter fun e => !e.isProgress, watched.store, watched.result⟩ := by
  induction entries generalizing store summary with
  | nil => rfl
  | cons entry rest ih =>
      have hquiet := fixFile_progress access pattern dryRun store entry
      have hkept : (fixFile access pattern dryRun store entry).events.filter
          (fun e => !e.isProgress) = (fixFile access pattern dryRun store entry).events := by
        rw [List.filter_eq_nil_iff] at hquiet
        exact List.filter_eq_self.2 fun e he => by simpa using hquiet e he
      unfold fixAll
      generalize fixFile access pattern dryRun store entry = fix at hkept
      rcases fix with ⟨events, e | ⟨next, outcome⟩⟩
      · simp only at hkept ⊢
        rw [hkept]
      · simp only [ih, List.filter_append] at hkept ⊢
        rw [hkept]
        simp [Event.isProgress]

namespace Memory

/-! ## Files that are done -/

/-- A file that is done: its entry, and the text that was read for it. -/
structure Done where
  entry : Entry
  text : String

namespace Done

variable {pattern : Alias} {files : List Done}

/-- How many references the text held. -/
def count (pattern : Alias) (file : Done) : Nat := (pattern.find file.text).length

/-- What is asked and reported for the file: its text is read; if it holds a reference and the run
is no dry one, another text is put back at the same path; and the references are reported to who
watches. -/
def trace (pattern : Alias) (dryRun progress : Bool) (file : Done) : List Event :=
  .read file.entry.path ::
    ((if pattern.Mentions file.text ∧ dryRun = false then
        [.write file.entry.path (pattern.substitute file.text file.entry.depth)] else []) ++
      if progress then [.file file.entry.path (file.count pattern)] else [])

/-- The paths of the files that held a reference. -/
def changed (pattern : Alias) (files : List Done) : List Path :=
  (files.filter fun file => 0 < file.count pattern).map fun file => file.entry.path

/-- The account of the files. -/
def account (pattern : Alias) (files : List Done) : Account :=
  files.map fun file => (file.entry.path, pattern.outcome file.text file.entry.depth)

/-- The account of the files tells the changed ones. -/
theorem changed_account : (account pattern files).changed = changed pattern files := by
  have hmodified : ∀ file : Done, (pattern.outcome file.text file.entry.depth).isModified =
      decide (0 < file.count pattern) := by
    intro file
    rw [Bool.eq_iff_iff, Alias.isModified_outcome_iff, decide_eq_true_iff, count,
      Alias.length_find_pos_iff]
  simp [account, changed, Account.changed, List.filter_map, Function.comp_def, hmodified]

theorem occurrences_account :
    (account pattern files).occurrences = (files.map (count pattern)).sum := by
  rw [account, Account.occurrences, List.map_map]
  exact congrArg List.sum (List.map_congr_left fun file _ => pattern.occurrences_outcome _ _)

/-- The summary of the files. -/
def summary (pattern : Alias) (dryRun : Bool) (files : List Done) : Summary :=
  ⟨files.length, changed pattern files, (files.map (count pattern)).sum, dryRun⟩

/-- The account of the files makes up their summary. -/
theorem after_account (dryRun : Bool) :
    (Summary.empty dryRun).after (account pattern files) = summary pattern dryRun files := by
  rw [Summary.after_eq, changed_account, occurrences_account]
  simp [Summary.empty, summary, account]

end Done

/-- The store after an event: what is asked to be put back is there. -/
def Store.after (store : Store) : Event → Store
  | .write path text => store.set path text
  | _ => store

/-- The store with all put back that a trace asks for. -/
def Store.replay (store : Store) (trace : List Event) : Store :=
  trace.foldl Store.after store

theorem Store.replay_append (store : Store) (trace later : List Event) :
    store.replay (trace ++ later) = (store.replay trace).replay later :=
  List.foldl_append

variable {entries others : List Entry} {faults : Faults} {pattern : Alias}
  {dryRun progress : Bool} {store next final : Store} {entry : Entry} {outcome : Outcome}
  {done : Account} {events : List Event}

/-- Handling a file makes its part of the trace but for the report, and puts back what that asks
for. -/
theorem exists_text_of_fixFile
    (hfix : fixFile (access others faults) pattern dryRun store entry =
      ⟨events, .ok (next, outcome)⟩) :
    ∃ text, faults.read entry.path = none ∧ store.get? entry.path = some text ∧
      outcome = pattern.outcome text entry.depth ∧
      events.filter Event.isTraced = Done.trace pattern dryRun false ⟨entry, text⟩ ∧
      next = store.replay (Done.trace pattern dryRun false ⟨entry, text⟩) := by
  have hstep := fixFile_handling (access others faults) pattern dryRun store entry
  rw [hfix] at hstep
  cases hstep with
  | @clean text hread hrewrite =>
      obtain ⟨hfault, htext⟩ := read_eq_ok_iff.1 hread
      have habsent := Alias.rewrite_eq_unchanged_iff.1 hrewrite
      refine ⟨text, hfault, htext, by simp [Alias.outcome, hrewrite], ?_, ?_⟩
      · simp [Done.trace, habsent, Event.isTraced, Event.isCall]
      · simp [Done.trace, habsent, Store.replay, Store.after]
  | @foretold text new n hread hrewrite hdry =>
      obtain ⟨hfault, htext⟩ := read_eq_ok_iff.1 hread
      refine ⟨text, hfault, htext, by simp [Alias.outcome, hrewrite], ?_, ?_⟩
      · simp [Done.trace, hdry, Event.isTraced, Event.isCall, Event.isProgress]
      · simp [Done.trace, hdry, Store.replay, Store.after]
  | @written text new n next hread hrewrite hdry hwrite =>
      obtain ⟨hfault, htext⟩ := read_eq_ok_iff.1 hread
      obtain ⟨-, rfl⟩ := write_eq_ok_iff.1 hwrite
      have hmentions := (Alias.rewrite_eq_rewritten hrewrite).1
      obtain ⟨hnew, -⟩ := Alias.eq_of_rewrite_eq_rewritten hrewrite
      refine ⟨text, hfault, htext, by simp [Alias.outcome, hrewrite], ?_, ?_⟩
      · simp [Done.trace, hmentions, hdry, hnew, Event.isTraced, Event.isCall, Event.isProgress]
      · simp [Done.trace, hmentions, hdry, hnew, Store.replay, Store.after]

/-- The report of a file is the end of its part of the trace, and puts nothing back. -/
theorem Done.trace_eq (pattern : Alias) (dryRun progress : Bool) (file : Done) :
    file.trace pattern dryRun progress = file.trace pattern dryRun false ++
      reportOf progress file.entry.path (pattern.outcome file.text file.entry.depth) := by
  cases progress <;> simp [trace, reportOf, count, Alias.occurrences_outcome]

/-- Whether a file is reported makes no difference to the store. -/
theorem Done.replay_trace (file : Done) :
    store.replay (file.trace pattern dryRun progress) =
      store.replay (file.trace pattern dryRun false) := by
  rw [file.trace_eq, Store.replay_append]
  cases progress <;> rfl

/-- Some files that are done, each with the text that the store holds when the files before it are
done. -/
def InTurn (faults : Faults) (pattern : Alias) (dryRun progress : Bool) (store : Store)
    (files : List Done) : Prop :=
  ∀ before file after, files = before ++ file :: after → faults.read file.entry.path = none ∧
    (store.replay (before.flatMap (Done.trace pattern dryRun progress))).get? file.entry.path =
      some file.text

/-- Files are met in turn if the first one is, and the others in the store behind it. -/
theorem InTurn.cons {file : Done} {files : List Done} (hfault : faults.read file.entry.path = none)
    (htext : store.get? file.entry.path = some file.text)
    (htail : InTurn faults pattern dryRun progress
      (store.replay (file.trace pattern dryRun progress)) files) :
    InTurn faults pattern dryRun progress store (file :: files) := by
  intro before other after hsplit
  cases before with
  | nil =>
      obtain ⟨rfl, -⟩ := List.cons.inj hsplit
      exact ⟨hfault, htext⟩
  | cons first before =>
      obtain ⟨rfl, rfl⟩ := List.cons.inj hsplit
      rw [List.flatMap_cons, Store.replay_append]
      exact htail before other after rfl

/-- **A stretch makes the parts of its files, one after the other.**  A report puts nothing back, so
each file is met in the store that handling the one before has left. -/
theorem exists_files_of_stretch
    (h : Stretch (access others faults) pattern dryRun progress store entries final done events) :
    ∃ files : List Done, files.map Done.entry = entries ∧ done = Done.account pattern files ∧
      events.filter Event.isTraced = files.flatMap (Done.trace pattern dryRun progress) ∧
      final = store.replay (files.flatMap (Done.trace pattern dryRun progress)) ∧
      InTurn faults pattern dryRun progress store files := by
  induction h with
  | nil store => exact ⟨[], rfl, rfl, rfl, rfl, by simp [InTurn]⟩
  | @cons store next final entry rest outcome done events later hfix _ ih =>
      obtain ⟨text, hfault, htext, rfl, htrace, hnext⟩ := exists_text_of_fixFile hfix
      obtain ⟨files, hentries, rfl, hlater, hfinal, hturn⟩ := ih
      let file : Done := ⟨entry, text⟩
      have hmine : store.replay (file.trace pattern dryRun progress) = next :=
        (Done.replay_trace file).trans hnext.symm
      have hreport : (reportOf progress entry.path (pattern.outcome text entry.depth)).filter
          Event.isTraced = reportOf progress entry.path (pattern.outcome text entry.depth) := by
        cases progress <;> rfl
      refine ⟨file :: files, by simp [file, hentries], rfl, ?_, ?_, ?_⟩
      · rw [List.filter_append, List.filter_append, htrace, hreport, hlater, List.flatMap_cons,
          file.trace_eq pattern dryRun progress, List.append_assoc]
      · rw [List.flatMap_cons, Store.replay_append, hmine, hfinal]
      · exact .cons hfault htext (hmine.symm ▸ hturn)

/-! ## Runs -/

/-- All that can end a run when some files are done: what stands at the end of its trace, and the
result. -/
inductive Closing (entries : List Entry) (faults : Faults) (config : Config) (progress : Bool)
    (final : Store) : List Done → List Event → Except Failure Summary → Prop
  | unwalked {fault : Fault} (hwalk : faults.walk = some fault) :
      Closing entries faults config progress final [] []
        (.error (.stopped (.scanning config.root) (.system (.directoryRead config.root fault))))
  | finished {files : List Done} (hwalk : faults.walk = none)
      (hall : files.map Done.entry = config.suffix.candidates entries) :
      Closing entries faults config progress final files
        (if progress then [.complete files.length (Done.changed config.pattern files).length]
          else [])
        (.ok (Done.summary config.pattern config.dryRun files))
  | unread {files : List Done} {entry : Entry} {after : List Entry} {e : SystemError}
      (hwalk : faults.walk = none)
      (hsplit : config.suffix.candidates entries = files.map Done.entry ++ entry :: after)
      (hread : (access entries faults).read final entry.path = .error e) :
      Closing entries faults config progress final files [.read entry.path]
        (.error (.stopped (.fixing entry.path) (.system e)))
  | unwritten {files : List Done} {entry : Entry} {after : List Entry} {text : String}
      {fault : Fault} (hwalk : faults.walk = none)
      (hsplit : config.suffix.candidates entries = files.map Done.entry ++ entry :: after)
      (hread : (access entries faults).read final entry.path = .ok text)
      (hmentions : config.pattern.Mentions text) (hdry : config.dryRun = false)
      (hfault : faults.write entry.path = some fault) :
      Closing entries faults config progress final files
        [.read entry.path, .write entry.path (config.pattern.substitute text entry.depth)]
        (.error (.stopped (.fixing entry.path) (.system (.fileWrite entry.path fault))))

/-- The trace of a run, for the files that are done and what comes behind them; the store that the
run leaves; and its result. -/
structure Recorded (entries : List Entry) (faults : Faults) (config : Config) (progress : Bool)
    (store : Store) (made : Run Store) (files : List Done) (closing : List Event) : Prop where
  trace : made.events.filter Event.isTraced = .walk config.root ::
    (files.flatMap (Done.trace config.pattern config.dryRun progress) ++ closing)
  turns : InTurn faults config.pattern config.dryRun progress store files
  store : made.store =
    store.replay (files.flatMap (Done.trace config.pattern config.dryRun progress))
  closing : Closing entries faults config progress made.store files closing made.result

/-- A walk that fails has met the fault that lies on it, and makes no notes. -/
theorem of_walk_eq_error {root : Path} {notes : List Event} {e : SystemError}
    (hwalk : (access entries faults).walk store root = (notes, .error e)) :
    notes = [] ∧ ∃ fault, faults.walk = some fault ∧ e = .directoryRead root fault := by
  cases hfault : faults.walk <;> simp_all [access, eq_comm]

/-- **Every run is recorded by its trace.**  In a run that fails at a file the request that failed is
the last one. -/
theorem exists_recorded (entries : List Entry) (faults : Faults) (config : Config)
    (progress : Bool) (store : Store) :
    ∃ files closing, Recorded entries faults config progress store
      (run (access entries faults) config progress store) files closing := by
  have hending := run_ending (access entries faults) config progress store
  generalize run (access entries faults) config progress store = made at hending
  cases hending with
  | unwalked hwalk =>
      obtain ⟨rfl, fault, hfault, rfl⟩ := of_walk_eq_error hwalk
      exact ⟨[], [], rfl, by simp [InTurn], rfl, .unwalked hfault⟩
  | finished hwalk h =>
      obtain ⟨rfl, rfl, hfault⟩ := of_walk_eq_ok hwalk
      obtain ⟨files, hentries, rfl, htrace, rfl, hturns⟩ := exists_files_of_stretch h
      rw [Done.after_account]
      refine ⟨files, _, ?_, hturns, rfl, .finished hfault hentries⟩
      change .walk _ :: (_ ++ closingOf _ _).filter Event.isTraced = _
      rw [List.filter_append, htrace]
      cases progress <;> rfl
  | @stopped final walked before after entry _ _ failed _ e hwalk hsplit h hfix =>
      obtain ⟨rfl, rfl, hfault⟩ := of_walk_eq_ok hwalk
      obtain ⟨files, rfl, rfl, htrace, rfl, hturns⟩ := exists_files_of_stretch h
      have hstep := fixFile_handling (access walked faults) config.pattern config.dryRun
        (store.replay (files.flatMap (Done.trace config.pattern config.dryRun progress))) entry
      rw [hfix] at hstep
      refine ⟨files, failed, ?_, hturns, rfl, ?_⟩
      · change .walk _ :: (_ ++ failed).filter Event.isTraced = _
        rw [List.filter_append, htrace]
        cases hstep <;> rfl
      · cases hstep with
        | unread hread => exact .unread hfault hsplit hread
        | @unwritten text new n e hread hrewrite hdry hwrite =>
            obtain ⟨fault, hwritten, rfl⟩ := write_eq_error_iff.1 hwrite
            obtain ⟨rfl, -⟩ := Alias.eq_of_rewrite_eq_rewritten hrewrite
            exact .unwritten hfault hsplit hread (Alias.rewrite_eq_rewritten hrewrite).1 hdry
              hwritten

/-! ## Reports -/

/-- What a trace reports, up to the end of the run, agrees with a summary. -/
structure Reports (trace : List Event) (summary : Summary) : Prop where
  /-- The end is reported once, and last. -/
  last : ∃ front, trace = front ++ [.complete summary.scanned summary.changedCount] ∧
    ∀ scanned changed, .complete scanned changed ∉ front
  scanned : (trace.filterMap Event.file?).length = summary.scanned
  changed : ((trace.filterMap Event.file?).filter (0 < ·.2)).map Prod.fst = summary.changed
  occurrences : ((trace.filterMap Event.file?).map Prod.snd).sum = summary.occurrences

namespace Done

variable {files : List Done}

/-- The files are reported one after the other, each with its count. -/
theorem filterMap_file?_traces :
    (files.flatMap (trace pattern dryRun true)).filterMap Event.file? =
      files.map fun file => (file.entry.path, file.count pattern) := by
  induction files with
  | nil => rfl
  | cons file files ih =>
      rw [List.flatMap_cons, List.filterMap_append, ih, trace]
      split <;> rfl

/-- No file brings the end of the run. -/
theorem complete_notMem_traces (scanned changed : Nat) :
    .complete scanned changed ∉ files.flatMap (trace pattern dryRun progress) := by
  simp only [List.mem_flatMap, not_exists, not_and]
  intro file _ hmem
  simp only [trace] at hmem
  split at hmem <;> cases progress <;> simp at hmem

end Done

namespace Recorded

variable {config : Config} {made : Run Store} {files : List Done} {closing : List Event}

/-- The end is reported by a run that succeeds, and by no other. -/
theorem complete_mem_iff (h : Recorded entries faults config true store made files closing)
    (scanned changed : Nat) :
    .complete scanned changed ∈ made.events ↔
      ∃ summary, made.result = .ok summary ∧ summary.scanned = scanned ∧
        summary.changedCount = changed := by
  have htraced : .complete scanned changed ∈ made.events ↔ .complete scanned changed ∈ closing := by
    have hmem : .complete scanned changed ∈ made.events.filter Event.isTraced ↔
        .complete scanned changed ∈ made.events := by
      simp [Event.isTraced, Event.isProgress]
    have habsent : .complete scanned changed ∉
        files.flatMap (Done.trace config.pattern config.dryRun true) :=
      Done.complete_notMem_traces scanned changed
    rw [← hmem, h.trace]
    simp only [List.mem_cons, List.mem_append, habsent, false_or, reduceCtorEq]
  rw [htraced]
  obtain ⟨-, -, -, hclosing⟩ := h
  generalize made.result = result at hclosing
  cases hclosing <;> simp [Done.summary, Summary.changedCount, eq_comm]

/-- What a run reports that succeeds agrees with its summary. -/
theorem reports (h : Recorded entries faults config true store made files closing)
    {summary : Summary} (hresult : made.result = .ok summary) :
    Reports (made.events.filter Event.isTraced) summary := by
  obtain ⟨htrace, -, -, hclosing⟩ := h
  rw [hresult] at hclosing
  cases hclosing
  have hreports : (made.events.filter Event.isTraced).filterMap Event.file? =
      files.map fun file => (file.entry.path, file.count config.pattern) := by
    rw [htrace, List.filterMap_cons_none rfl, List.filterMap_append, Done.filterMap_file?_traces]
    exact List.append_nil _
  refine ⟨⟨_, htrace.trans (List.cons_append).symm, fun scanned changed hmem => ?_⟩, ?_, ?_, ?_⟩
  · exact Done.complete_notMem_traces scanned changed (by simpa using hmem)
  · simp [hreports, Done.summary]
  · simp [hreports, Done.summary, Done.changed, List.filter_map, Function.comp_def]
  · simp [hreports, Done.summary, Function.comp_def]

end Recorded

/-- Two runs differ in nothing but that one of them is watched. -/
structure OnlyWatched (watched unwatched : Run Store) : Prop where
  result : unwatched.result = watched.result
  store : unwatched.store = watched.store
  calls : unwatched.events.filter Event.isCall = watched.events.filter Event.isCall
  events : unwatched.events = watched.events.filter fun e => !e.isProgress

/-- **A run that is watched differs from one that is not by its reports alone.** -/
theorem run_onlyWatched (entries : List Entry) (faults : Faults) (config : Config)
    (store : Store) :
    OnlyWatched (run (access entries faults) config true store)
      (run (access entries faults) config false store) := by
  have hevents : run (access entries faults) config false store =
      ⟨(run (access entries faults) config true store).events.filter fun e => !e.isProgress,
        (run (access entries faults) config true store).store,
        (run (access entries faults) config true store).result⟩ := by
    cases hfault : faults.walk with
    | some fault => simp [run, access, hfault, Event.isProgress]
    | none =>
        simp only [run, walk_eq_ok hfault, fixAll_unwatched]
        simp [Event.isProgress]
  have hcalls : ∀ e : Event, (e.isCall && !e.isProgress) = e.isCall := by
    intro e
    cases e <;> rfl
  rw [hevents]
  refine ⟨rfl, rfl, ?_, rfl⟩
  simp [List.filter_filter, hcalls]

/-- **The trace, the store and the summary of a run agree.**  Every run is recorded by its trace,
watched or not: the walk, then the files that are done, one after the other in the order of the
walk, each read, put back if it mentions an alias and the run is no dry one, and reported; and at
the end nothing or the request that fails.  A run that is watched reports its end exactly if it
succeeds, and its reports agree with its summary.  Who watches changes nothing else. -/
theorem trace_records_run (entries : List Entry) (faults : Faults) (config : Config)
    (store : Store) :
    let watched := run (access entries faults) config true store
    (∀ progress, ∃ files closing, Recorded entries faults config progress store
      (run (access entries faults) config progress store) files closing) ∧
    (∀ scanned changed, .complete scanned changed ∈ watched.events ↔
      ∃ summary, watched.result = .ok summary ∧ summary.scanned = scanned ∧
        summary.changedCount = changed) ∧
    (∀ summary, watched.result = .ok summary →
      Reports (watched.events.filter Event.isTraced) summary) ∧
    OnlyWatched watched (run (access entries faults) config false store) := by
  intro watched
  obtain ⟨files, closing, hrecorded⟩ := exists_recorded entries faults config true store
  exact ⟨fun progress => exists_recorded entries faults config progress store,
    hrecorded.complete_mem_iff, fun summary => hrecorded.reports,
    run_onlyWatched entries faults config store⟩

/-- Three files are reported, the first one for a second time behind the other. -/
theorem reports_sampleEntries :
    let made := run (access sampleEntries {}) (.standard (.ofText "d")) true sampleStore
    Reports (made.events.filter Event.isTraced)
      ⟨3, [.ofText "a.js", .ofText "s/b.js"], 3, false⟩ :=
  (trace_records_run sampleEntries {} (.standard (.ofText "d")) sampleStore).2.2.1 _ rfl

end Memory

end Dealias
