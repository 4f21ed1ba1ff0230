import Mathlib.Algebra.GroupWithZero.Nat
import Dealias.Proofs.Rewriting
import Dealias.Run.Basic

/-!
# Stretches of a run

A run handles its candidates one at a time.  A stretch is a part of it in which nothing fails: it
leads from one store to another, and with it goes what became of each file and what was done and
told on the way.

Over any list of entries a run is either one stretch or a stretch up to a file that fails
(`stretch_or_stop`), and the two equations `fixAll_of_stretch` and `fixAll_of_stop` give all that
is to be known of its store, its result and its events.  So what is proved of one step
(`Handling`) is carried to runs by induction on stretches.
-/

namespace Dealias

/-! ## Events by kind -/

namespace Event

/-- The path of a request for a text. -/
def read? : Event → Option Path
  | read path => some path
  | _ => none

/-- The path of a request to put a text back. -/
def write? : Event → Option Path
  | write path _ => some path
  | _ => none

/-- How many references were rewritten in a text that was put back. -/
def putBack? : Event → Option Nat
  | rewrote n _ false => some n
  | _ => none

/-- The path and the count that are reported for a file that is done. -/
def file? : Event → Option (Path × Nat)
  | file path n => some (path, n)
  | _ => none

end Event

/-! ## What became of the files -/

/-- What became of the files at some paths. -/
abbrev Account := List (Path × Outcome)

namespace Account

/-- The paths of the files that were changed. -/
def changed (done : Account) : List Path :=
  (done.filter (·.2.isModified)).map Prod.fst

/-- How many references were rewritten. -/
def occurrences (done : Account) : Nat :=
  (done.map (·.2.occurrences)).sum

/-- What is reported of the files. -/
def reports (done : Account) : List (Path × Nat) :=
  done.map fun file => (file.1, file.2.occurrences)

theorem changed_append (done later : Account) :
    changed (done ++ later) = done.changed ++ later.changed := by
  simp [changed]

theorem occurrences_append (done later : Account) :
    occurrences (done ++ later) = done.occurrences + later.occurrences := by
  simp [occurrences]

end Account

/-- The summary with the account of some more files. -/
def Summary.after (s : Summary) : Account → Summary
  | [] => s
  | file :: done => (s.record file.1 file.2).after done

/-- Each file of an account is counted, with what was changed in it. -/
theorem Summary.after_eq (s : Summary) (done : Account) :
    s.after done =
      ⟨s.scanned + done.length, s.changed ++ done.changed, s.occurrences + done.occurrences,
        s.dryRun⟩ := by
  induction done generalizing s with
  | nil => simp [after, Account.changed, Account.occurrences]
  | cons file done ih =>
      rw [after, ih]
      cases h : file.2.isModified <;>
        simp [record, Account.changed, Account.occurrences, h] <;> omega

variable {σ : Type} {access : Access σ} {pattern : Alias} {dryRun progress : Bool}

/-! ## One file -/

/-- All that handling a file can come to. -/
inductive Handling (access : Access σ) (pattern : Alias) (dryRun : Bool) (store : σ)
    (entry : Entry) : Fix σ → Prop
  | unread {e : SystemError} (hread : access.read store entry.path = .error e) :
      Handling access pattern dryRun store entry ⟨[.read entry.path], .error e⟩
  | clean {text : String} (hread : access.read store entry.path = .ok text)
      (hrewrite : pattern.rewrite text entry.depth = .unchanged) :
      Handling access pattern dryRun store entry ⟨[.read entry.path], .ok (store, .unchanged)⟩
  | foretold {text new : String} {n : Nat} (hread : access.read store entry.path = .ok text)
      (hrewrite : pattern.rewrite text entry.depth = .rewritten new n) (hdry : dryRun = true) :
      Handling access pattern dryRun store entry
        ⟨[.read entry.path, .rewrote n entry.path true], .ok (store, .rewritten n)⟩
  | unwritten {text new : String} {n : Nat} {e : SystemError}
      (hread : access.read store entry.path = .ok text)
      (hrewrite : pattern.rewrite text entry.depth = .rewritten new n) (hdry : dryRun = false)
      (hwrite : access.write store entry.path new = .error e) :
      Handling access pattern dryRun store entry
        ⟨[.read entry.path, .write entry.path new], .error e⟩
  | written {text new : String} {n : Nat} {next : σ}
      (hread : access.read store entry.path = .ok text)
      (hrewrite : pattern.rewrite text entry.depth = .rewritten new n) (hdry : dryRun = false)
      (hwrite : access.write store entry.path new = .ok next) :
      Handling access pattern dryRun store entry
        ⟨[.read entry.path, .write entry.path new, .rewrote n entry.path false],
          .ok (next, .rewritten n)⟩

/-- **What handling a file does.** -/
theorem fixFile_handling (access : Access σ) (pattern : Alias) (dryRun : Bool) (store : σ)
    (entry : Entry) :
    Handling access pattern dryRun store entry (fixFile access pattern dryRun store entry) := by
  unfold fixFile
  split
  · exact .unread ‹_›
  · rename_i text hread
    split
    · exact .clean hread ‹_›
    · rename_i new n hrewrite
      cases dryRun with
      | true => exact .foretold hread hrewrite rfl
      | false =>
          simp only [Bool.false_eq_true, if_false]
          split
          · exact .unwritten hread hrewrite rfl ‹_›
          · exact .written hread hrewrite rfl ‹_›

/-- Each of these is what handling the file does where it applies. -/
theorem Handling.fixFile_eq {store : σ} {entry : Entry} {fix : Fix σ}
    (h : Handling access pattern dryRun store entry fix) :
    fixFile access pattern dryRun store entry = fix := by
  cases h <;> simp [fixFile, *]

section

variable {store next : σ} {entry : Entry} {outcome : Outcome} {events : List Event}

/-- A file that is handled without a failure is read once. -/
theorem fixFile_reads
    (hfix : fixFile access pattern dryRun store entry = ⟨events, .ok (next, outcome)⟩) :
    events.filterMap Event.read? = [entry.path] := by
  have hstep := fixFile_handling access pattern dryRun store entry
  rw [hfix] at hstep
  cases hstep <;> rfl

/-- It is put back exactly when it is changed and the run is no dry one. -/
theorem fixFile_writes
    (hfix : fixFile access pattern dryRun store entry = ⟨events, .ok (next, outcome)⟩) :
    events.filterMap Event.write? =
      if dryRun = false ∧ outcome.isModified = true then [entry.path] else [] := by
  have hstep := fixFile_handling access pattern dryRun store entry
  rw [hfix] at hstep
  cases hstep with
  | clean => simp [Event.write?, Outcome.isModified]
  | foretold _ _ hdry => subst hdry; rfl
  | written _ _ hdry => subst hdry; rfl

/-- What is put back in a file is what is counted for it. -/
theorem fixFile_sum_putBack
    (hfix : fixFile access pattern false store entry = ⟨events, .ok (next, outcome)⟩) :
    (events.filterMap Event.putBack?).sum = outcome.occurrences := by
  have hstep := fixFile_handling access pattern false store entry
  rw [hfix] at hstep
  cases hstep with
  | clean => rfl
  | foretold _ _ hdry => cases hdry
  | @written _ _ n => exact Nat.add_zero n

/-- Handling a file is not yet a report of it. -/
theorem fixFile_reports (access : Access σ) (pattern : Alias) (dryRun : Bool) (store : σ)
    (entry : Entry) :
    (fixFile access pattern dryRun store entry).events.filterMap Event.file? = [] := by
  have hstep := fixFile_handling access pattern dryRun store entry
  cases hfix : fixFile access pattern dryRun store entry with
  | mk events result =>
      rw [hfix] at hstep
      cases hstep <;> rfl

end

/-! ## A stretch of files -/

/-- What is reported when a file is done. -/
def reportOf (progress : Bool) (path : Path) (outcome : Outcome) : List Event :=
  if progress then [.file path outcome.occurrences] else []

/-- A report asks nothing of the system. -/
theorem reportOf_calls (progress : Bool) (path : Path) (outcome : Outcome) :
    (reportOf progress path outcome).filterMap Event.read? = [] ∧
      (reportOf progress path outcome).filterMap Event.write? = [] ∧
      (reportOf progress path outcome).filterMap Event.putBack? = [] := by
  cases progress <;> exact ⟨rfl, rfl, rfl⟩

/-- A file is reported once, if anyone is watching. -/
theorem reportOf_reports (progress : Bool) (path : Path) (outcome : Outcome) :
    (reportOf progress path outcome).filterMap Event.file? =
      if progress then [(path, outcome.occurrences)] else [] := by
  cases progress <;> rfl

/-- A part of a run in which no file fails, from the store before it to the store behind it. -/
inductive Stretch (access : Access σ) (pattern : Alias) (dryRun progress : Bool) :
    σ → List Entry → σ → Account → List Event → Prop
  | nil (store : σ) : Stretch access pattern dryRun progress store [] store [] []
  | cons {store next final : σ} {entry : Entry} {rest : List Entry} {outcome : Outcome}
      {done : Account} {events later : List Event}
      (hfix : fixFile access pattern dryRun store entry = ⟨events, .ok (next, outcome)⟩)
      (tail : Stretch access pattern dryRun progress next rest final done later) :
      Stretch access pattern dryRun progress store (entry :: rest) final
        ((entry.path, outcome) :: done)
        (events ++ (reportOf progress entry.path outcome ++ later))

namespace Stretch

variable {store middle final : σ} {entries first second : List Entry} {done later : Account}
  {events rest : List Event}

/-- A stretch goes on with another one. -/
theorem append (hfirst : Stretch access pattern dryRun progress store first middle done events)
    (hsecond : Stretch access pattern dryRun progress middle second final later rest) :
    Stretch access pattern dryRun progress store (first ++ second) final (done ++ later)
      (events ++ rest) := by
  induction hfirst with
  | nil => exact hsecond
  | cons hfix tail ih =>
      have hall := Stretch.cons hfix (ih hsecond)
      simpa using hall

/-- A stretch over two lists of entries is one over the first and one over the second. -/
theorem split
    (h : Stretch access pattern dryRun progress store (first ++ second) final done events) :
    ∃ middle before after past rest, done = before ++ after ∧
      Stretch access pattern dryRun progress store first middle before past ∧
      Stretch access pattern dryRun progress middle second final after rest := by
  induction first generalizing store done events with
  | nil => exact ⟨store, [], done, [], events, rfl, .nil store, h⟩
  | cons entry first ih =>
      cases h with
      | cons hfix tail =>
          obtain ⟨middle, before, after, past, rest, rfl, hfirst, hsecond⟩ := ih tail
          exact ⟨middle, _ :: before, after, _, rest, rfl, .cons hfix hfirst, hsecond⟩

/-- The same files handled in the same store lead to the same end. -/
theorem unique {final' : σ} {done' : Account} {events' : List Event}
    (h : Stretch access pattern dryRun progress store entries final done events)
    (h' : Stretch access pattern dryRun progress store entries final' done' events') :
    final = final' ∧ done = done' ∧ events = events' := by
  induction h generalizing final' done' events' with
  | nil => cases h'; exact ⟨rfl, rfl, rfl⟩
  | cons hfix tail ih =>
      cases h' with
      | cons hfix' tail' =>
          rw [hfix] at hfix'
          injection hfix' with hevents hresult
          injection hresult with hpair
          obtain ⟨rfl, rfl⟩ := Prod.mk.inj hpair
          obtain ⟨rfl, rfl, rfl⟩ := ih tail'
          exact ⟨rfl, rfl, by rw [hevents]⟩

/-- The account names the files in their order. -/
theorem map_fst (h : Stretch access pattern dryRun progress store entries final done events) :
    done.map Prod.fst = entries.map Entry.path := by
  induction h with
  | nil => rfl
  | cons _ _ ih => simp [ih]

/-- A stretch gives an account of each of its entries. -/
theorem length_eq (h : Stretch access pattern dryRun progress store entries final done events) :
    done.length = entries.length := by
  simpa using congrArg List.length h.map_fst

/-- Every file is read once, in order. -/
theorem reads (h : Stretch access pattern dryRun progress store entries final done events) :
    events.filterMap Event.read? = entries.map Entry.path := by
  induction h with
  | nil => rfl
  | cons hfix _ ih =>
      rw [List.filterMap_append, List.filterMap_append, fixFile_reads hfix,
        (reportOf_calls ..).1, ih]
      rfl

/-- Every file is reported once, in order, if the progress is watched. -/
theorem reports (h : Stretch access pattern dryRun progress store entries final done events) :
    events.filterMap Event.file? = if progress then done.reports else [] := by
  induction h with
  | nil => cases progress <;> rfl
  | @cons store _ _ entry _ _ _ _ _ hfix _ ih =>
      have hquiet := fixFile_reports access pattern dryRun store entry
      rw [hfix] at hquiet
      rw [List.filterMap_append, List.filterMap_append, hquiet, reportOf_reports, ih]
      cases progress <;> rfl

/-- What is put back are the changed files, in order, and nothing in a dry run. -/
theorem writes (h : Stretch access pattern dryRun progress store entries final done events) :
    events.filterMap Event.write? = if dryRun then [] else done.changed := by
  induction h with
  | nil => cases dryRun <;> rfl
  | @cons _ _ _ _ _ outcome _ _ _ hfix _ ih =>
      rw [List.filterMap_append, List.filterMap_append, fixFile_writes hfix,
        (reportOf_calls ..).2.1, ih]
      cases dryRun <;> cases hmod : outcome.isModified <;> simp [Account.changed, hmod]

/-- The references in what was put back are those of the account. -/
theorem sum_putBack (h : Stretch access pattern false progress store entries final done events) :
    (events.filterMap Event.putBack?).sum = done.occurrences := by
  induction h with
  | nil => rfl
  | cons hfix _ ih =>
      rw [List.filterMap_append, List.filterMap_append, List.sum_append, fixFile_sum_putBack hfix,
        (reportOf_calls ..).2.2, List.nil_append, ih]
      rfl

end Stretch

/-! ## Runs -/

/-- A run over some entries behind a stretch is what the rest of it does, with the events of the
stretch in front. -/
theorem fixAll_of_stretch {store final : σ} {entries : List Entry} {done : Account}
    {events : List Event}
    (h : Stretch access pattern dryRun progress store entries final done events)
    (summary : Summary) (rest : List Entry) :
    fixAll access pattern dryRun progress store summary (entries ++ rest) =
      let later := fixAll access pattern dryRun progress final (summary.after done) rest
      ⟨events ++ later.events, later.store, later.result⟩ := by
  induction h generalizing summary with
  | nil => rfl
  | @cons store next final entry _ outcome _ _ _ hfix _ ih =>
      simp only [List.cons_append, fixAll, hfix, ih, Summary.after, reportOf]
      simp

/-- A run over a stretch and a file that fails ends there. -/
theorem fixAll_of_stop {store final : σ} {entries after : List Entry} {entry : Entry}
    {done : Account} {events failed : List Event} {e : SystemError}
    (h : Stretch access pattern dryRun progress store entries final done events)
    (hfix : fixFile access pattern dryRun final entry = ⟨failed, .error e⟩) (summary : Summary) :
    fixAll access pattern dryRun progress store summary (entries ++ entry :: after) =
      ⟨events ++ failed, final, .error (.stopped (.fixing entry.path) (.system e))⟩ := by
  rw [fixAll_of_stretch h, fixAll, hfix]

/-- **A run is a stretch, or a stretch up to a file that fails.** -/
theorem stretch_or_stop (access : Access σ) (pattern : Alias) (dryRun progress : Bool) (store : σ)
    (entries : List Entry) :
    (∃ final done events,
      Stretch access pattern dryRun progress store entries final done events) ∨
    ∃ before entry after final done events failed e, entries = before ++ entry :: after ∧
      Stretch access pattern dryRun progress store before final done events ∧
      fixFile access pattern dryRun final entry = ⟨failed, .error e⟩ := by
  induction entries generalizing store with
  | nil => exact .inl ⟨store, [], [], .nil store⟩
  | cons entry rest ih =>
      rcases hfix : fixFile access pattern dryRun store entry with ⟨events, result⟩
      cases result with
      | error e =>
          exact .inr ⟨[], entry, rest, store, [], [], events, e, rfl, .nil store, hfix⟩
      | ok handled =>
          obtain ⟨next, outcome⟩ := handled
          rcases ih next with ⟨final, done, later, h⟩ |
              ⟨before, stop, after, final, done, later, failed, e, rfl, h, hstop⟩
          · exact .inl ⟨final, _, _, .cons hfix h⟩
          · exact .inr ⟨entry :: before, stop, after, final, _, _, failed, e, rfl,
              .cons hfix h, hstop⟩

/-- What is told when all files are done. -/
def closingOf (progress : Bool) (summary : Summary) : List Event :=
  (if progress then [.complete summary.scanned summary.changedCount] else []) ++
    [.total summary.occurrences]

/-- The end of a run asks nothing of the system and reports no file. -/
theorem closingOf_quiet (progress : Bool) (summary : Summary) :
    (closingOf progress summary).filterMap Event.read? = [] ∧
      (closingOf progress summary).filterMap Event.write? = [] ∧
      (closingOf progress summary).filterMap Event.putBack? = [] ∧
      (closingOf progress summary).filterMap Event.file? = [] := by
  cases progress <;> exact ⟨rfl, rfl, rfl, rfl⟩

/-- All that a run can come to. -/
inductive Ending (access : Access σ) (config : Config) (progress : Bool) (store : σ) : Run σ → Prop
  | unwalked {notes : List Event} {e : SystemError}
      (hwalk : access.walk store config.root = (notes, .error e)) :
      Ending access config progress store
        ⟨.walk config.root :: notes, store, .error (.stopped (.scanning config.root) (.system e))⟩
  | finished {final : σ} {entries : List Entry} {notes events : List Event} {done : Account}
      (hwalk : access.walk store config.root = (notes, .ok entries))
      (h : Stretch access config.pattern config.dryRun progress store
        (config.suffix.candidates entries) final done events) :
      Ending access config progress store
        ⟨.walk config.root :: notes ++ .selected (config.suffix.candidates entries).length
            entries.length config.root config.suffix.text ::
            (events ++ closingOf progress ((Summary.empty config.dryRun).after done)),
          final, .ok ((Summary.empty config.dryRun).after done)⟩
  | stopped {final : σ} {entries before after : List Entry} {entry : Entry}
      {notes events failed : List Event} {done : Account} {e : SystemError}
      (hwalk : access.walk store config.root = (notes, .ok entries))
      (hsplit : config.suffix.candidates entries = before ++ entry :: after)
      (h : Stretch access config.pattern config.dryRun progress store before final done events)
      (hfix : fixFile access config.pattern config.dryRun final entry = ⟨failed, .error e⟩) :
      Ending access config progress store
        ⟨.walk config.root :: notes ++ .selected (before ++ entry :: after).length
            entries.length config.root config.suffix.text :: (events ++ failed),
          final, .error (.stopped (.fixing entry.path) (.system e))⟩

section

variable {config : Config} {store : σ}

/-- Each of these is what the run does where it applies. -/
theorem Ending.run_eq {made : Run σ} (h : Ending access config progress store made) :
    run access config progress store = made := by
  cases h with
  | unwalked hwalk => simp only [run, hwalk]
  | finished hwalk h =>
      have hall := fixAll_of_stretch h (.empty config.dryRun) []
      rw [List.append_nil] at hall
      simp only [run, hwalk, hall]
      rfl
  | stopped hwalk hsplit h hfix => simp only [run, hwalk, hsplit, fixAll_of_stop h hfix]

/-- A run that succeeds puts back the changed files, in order, and nothing in a dry run. -/
theorem Stretch.run_writes {final : σ} {entries : List Entry} {notes events : List Event}
    {done : Account} (hwalk : access.walk store config.root = (notes, .ok entries))
    (h : Stretch access config.pattern config.dryRun progress store
      (config.suffix.candidates entries) final done events) :
    (run access config progress store).events.filterMap Event.write? =
      notes.filterMap Event.write? ++ if config.dryRun then [] else done.changed := by
  rw [(Ending.finished hwalk h).run_eq]
  change (notes ++ .selected .. :: (events ++ closingOf ..)).filterMap Event.write? = _
  rw [List.filterMap_append, List.filterMap_cons_none rfl, List.filterMap_append, h.writes,
    (closingOf_quiet ..).2.1, List.append_nil]

/-- **What a run does.** -/
theorem run_ending (access : Access σ) (config : Config) (progress : Bool) (store : σ) :
    Ending access config progress store (run access config progress store) := by
  suffices h : ∃ made, Ending access config progress store made by
    obtain ⟨made, hmade⟩ := h
    exact hmade.run_eq ▸ hmade
  rcases hwalk : access.walk store config.root with ⟨notes, walked⟩
  cases walked with
  | error e => exact ⟨_, .unwalked hwalk⟩
  | ok entries =>
      rcases stretch_or_stop access config.pattern config.dryRun progress store
          (config.suffix.candidates entries) with
        ⟨final, done, events, h⟩ |
          ⟨before, entry, after, final, done, events, failed, e, hsplit, h, hfix⟩
      · exact ⟨_, .finished hwalk h⟩
      · exact ⟨_, .stopped hwalk hsplit h hfix⟩

/-- A run that succeeds is a stretch over its candidates. -/
theorem exists_stretch_of_ok {summary : Summary}
    (hresult : (run access config progress store).result = .ok summary) :
    ∃ entries notes done events, access.walk store config.root = (notes, .ok entries) ∧
      Stretch access config.pattern config.dryRun progress store (config.suffix.candidates entries)
        (run access config progress store).store done events ∧
      summary = (Summary.empty config.dryRun).after done := by
  have hending := run_ending access config progress store
  generalize run access config progress store = made at hending hresult
  cases hending with
  | unwalked => cases hresult
  | stopped => cases hresult
  | finished hwalk h => exact ⟨_, _, _, _, hwalk, h, (Except.ok.inj hresult).symm⟩

end

/-- Candidates are candidates again. -/
theorem Suffix.candidates_of_append {s : Suffix} {entries before rest : List Entry}
    (h : s.candidates entries = before ++ rest) : s.candidates before = before := by
  refine List.filter_eq_self.2 fun entry hmem => ?_
  have hcandidate : entry ∈ s.candidates entries := h ▸ List.mem_append_left _ hmem
  exact (List.mem_filter.1 hcandidate).2

/-- Candidates have paths of their own if all entries have. -/
theorem Suffix.distinct_candidates {entries : List Entry} (s : Suffix)
    (h : (entries.map Entry.path).Nodup) : ((s.candidates entries).map Entry.path).Nodup := by
  have hsublist : (s.candidates entries).Sublist entries := List.filter_sublist
  exact h.sublist (hsublist.map Entry.path)

/-- If entries have paths of their own, that of the first one does not come again. -/
theorem Entry.path_ne_of_distinct {entry later : Entry} {rest : List Entry}
    (h : ((entry :: rest).map Entry.path).Nodup) (hlater : later ∈ rest) :
    later.path ≠ entry.path := by
  rw [List.map_cons, List.nodup_cons] at h
  intro hsame
  exact h.1 (hsame ▸ List.mem_map_of_mem hlater)

end Dealias
