import Mathlib.Data.List.Nodup
import Dealias.Proofs.Settled

/-!
# Files by themselves

In memory a file is known by its path, so over entries with paths of their own every file is met
once, and then as it was in the beginning (`stretch_each`).  What becomes of it depends on its text
and on its depth, and on nothing else.

So a run changes the files that hold a reference and no others (`run_changes_mentioning`): what is
put back is never what was there before, as no marker begins like the way to the root.  And what lies
around a file, or is handled before it, leaves no trace in it (`files_stay_apart`).
-/

namespace Dealias

/-! ## Accounts -/

namespace Account

/-- The part of an account that is about one path. -/
def about (done : Account) (path : Path) : Account :=
  done.filter fun file => file.1 = path

/-- Whether a path is told as changed depends on what is told about it alone. -/
theorem mem_changed_iff {done : Account} {path : Path} :
    path ∈ done.changed ↔ path ∈ (done.about path).changed := by
  simp only [changed, about, List.mem_map, List.mem_filter, decide_eq_true_eq]
  constructor
  · rintro ⟨file, ⟨hfile, hmodified⟩, rfl⟩
    exact ⟨file, ⟨⟨hfile, rfl⟩, hmodified⟩, rfl⟩
  · rintro ⟨file, ⟨⟨hfile, -⟩, hmodified⟩, hpath⟩
    exact ⟨file, ⟨hfile, hmodified⟩, hpath⟩

/-- The reports about a path are those of its part of the account. -/
theorem reports_about (done : Account) (path : Path) :
    done.reports.filter (fun report => report.1 = path) = (done.about path).reports := by
  rw [reports, reports, about, List.filter_map]
  rfl

/-- A run changes what its account tells. -/
theorem changed_after_empty (dryRun : Bool) (done : Account) :
    ((Summary.empty dryRun).after done).changed = done.changed := by
  simp [Summary.after_eq, Summary.empty]

end Account

/-- What is told to be changed is rewritten at one place or more. -/
theorem Stretch.changed_le {σ : Type} {access : Access σ} {pattern : Alias} {dryRun progress : Bool}
    {store final : σ} {entries : List Entry} {done : Account} {events : List Event}
    (h : Stretch access pattern dryRun progress store entries final done events) :
    done.changed.length ≤ done.length ∧ done.changed.length ≤ done.occurrences := by
  induction h with
  | nil => exact ⟨Nat.le_refl 0, Nat.le_refl 0⟩
  | @cons store next final entry rest outcome done events later hfix _ ih =>
      obtain ⟨hlength, hcount⟩ := ih
      have hpositive : outcome.isModified = true → 0 < outcome.occurrences := by
        intro hmodified
        have hstep := fixFile_handling access pattern dryRun store entry
        rw [hfix] at hstep
        cases hstep with
        | clean => cases hmodified
        | foretold _ hrewrite => exact (Alias.rewrite_eq_rewritten hrewrite).2.1
        | written _ hrewrite => exact (Alias.rewrite_eq_rewritten hrewrite).2.1
      have hoccurrences : Account.occurrences ((entry.path, outcome) :: done) =
          outcome.occurrences + done.occurrences := by
        simp [Account.occurrences]
      cases hmodified : outcome.isModified with
      | false =>
          have hchanged : Account.changed ((entry.path, outcome) :: done) = done.changed := by
            simp [Account.changed, hmodified]
          rw [hchanged, hoccurrences, List.length_cons]
          omega
      | true =>
          have hchanged : Account.changed ((entry.path, outcome) :: done) =
              entry.path :: done.changed := by
            simp [Account.changed, hmodified]
          have := hpositive hmodified
          rw [hchanged, hoccurrences, List.length_cons, List.length_cons]
          omega

/-- Among entries with paths of their own, one is found by its path. -/
theorem filter_path_eq {entries : List Entry} {entry : Entry}
    (hdistinct : (entries.map Entry.path).Nodup) (hmem : entry ∈ entries) :
    entries.filter (fun other => other.path = entry.path) = [entry] := by
  have hsame : ∀ other ∈ entries, other.path = entry.path ↔ other = entry := by
    intro other hother
    constructor
    · intro hpath
      exact List.inj_on_of_nodup_map hdistinct hother hmem hpath
    · intro h
      rw [h]
  have hcount : entries.count entry = 1 :=
    List.count_eq_one_of_mem (List.Nodup.of_map Entry.path hdistinct) hmem
  have hfilter : entries.filter (fun other => other.path = entry.path) =
      entries.filter (fun other => other = entry) :=
    List.filter_congr fun other hother => by simp [hsame other hother]
  rw [hfilter, List.filter_eq entry, hcount]
  rfl

namespace Memory

variable {entries others rest : List Entry} {faults : Faults} {pattern : Alias}
  {dryRun progress : Bool} {store next final : Store} {entry : Entry} {path : Path}
  {outcome : Outcome} {done : Account} {events : List Event}

/-! ## One file -/

/-- What is told of the file of an entry. -/
def outcomeIn (pattern : Alias) (store : Store) (entry : Entry) : Outcome :=
  match store.get? entry.path with
  | some text => pattern.outcome text entry.depth
  | none => .unchanged

/-- **What becomes of a file depends on its text and its depth.** -/
theorem text_of_fixFile
    (hfix : fixFile (access others faults) pattern dryRun store entry =
      ⟨events, .ok (next, outcome)⟩) :
    ∃ text, store.get? entry.path = some text ∧ outcome = pattern.outcome text entry.depth ∧
      next.get? entry.path = some (pattern.textAfter dryRun text entry.depth) := by
  have hstep := fixFile_handling (access others faults) pattern dryRun store entry
  rw [hfix] at hstep
  cases hstep with
  | @clean text hread hrewrite =>
      have htext := (read_eq_ok_iff.1 hread).2
      exact ⟨text, htext, by simp [Alias.outcome, hrewrite], by simp [Alias.textAfter, hrewrite, htext]⟩
  | @foretold text new n hread hrewrite hdry =>
      have htext := (read_eq_ok_iff.1 hread).2
      exact ⟨text, htext, by simp [Alias.outcome, hrewrite],
        by simp [Alias.textAfter, hrewrite, htext, hdry]⟩
  | @written text new n next hread hrewrite hdry hwrite =>
      have htext := (read_eq_ok_iff.1 hread).2
      obtain ⟨-, rfl⟩ := write_eq_ok_iff.1 hwrite
      refine ⟨text, htext, by simp [Alias.outcome, hrewrite], ?_⟩
      rw [Table.get?_set, if_pos rfl]
      simp [Alias.textAfter, hrewrite, hdry]

/-- What is put back is another text than the one that was there. -/
theorem write_ne_of_fixFile {new : String}
    (hfix : fixFile (access others faults) pattern dryRun store entry =
      ⟨events, .ok (next, outcome)⟩) (hwrite : .write path new ∈ events) :
    path = entry.path ∧ ∃ old, store.get? path = some old ∧ old ≠ new := by
  have hstep := fixFile_handling (access others faults) pattern dryRun store entry
  rw [hfix] at hstep
  cases hstep with
  | clean => simp at hwrite
  | foretold => simp at hwrite
  | @written text put n next hread hrewrite =>
      obtain ⟨rfl, rfl⟩ : path = entry.path ∧ new = put := by simpa using hwrite
      have htext := (read_eq_ok_iff.1 hread).2
      exact ⟨rfl, text, htext, (Alias.ne_of_rewrite_eq_rewritten hrewrite).symm⟩

/-! ## Stretches -/

/-- Along a stretch the files at other paths stay as they are. -/
theorem stretch_frame
    (h : Stretch (access others faults) pattern dryRun progress store entries final done events)
    (hpath : path ∉ entries.map Entry.path) : final.get? path = store.get? path := by
  induction h with
  | nil => rfl
  | cons hfix _ ih =>
      rw [List.map_cons, List.mem_cons, not_or] at hpath
      rw [ih hpath.2, fixFile_frame hfix hpath.1]

/-- **Over entries with paths of their own every file is met as it was in the beginning.**  Handling
the first file leaves all others as they are, so they are met in the store behind it alike. -/
theorem stretch_each (hdistinct : (entries.map Entry.path).Nodup)
    (h : Stretch (access others faults) pattern dryRun progress store entries final done events) :
    done = entries.map (fun entry => (entry.path, outcomeIn pattern store entry)) ∧
      ∀ entry ∈ entries, ∃ text, store.get? entry.path = some text ∧
        final.get? entry.path = some (pattern.textAfter dryRun text entry.depth) := by
  induction h with
  | nil => exact ⟨rfl, by simp⟩
  | @cons store next final entry rest outcome done events later hfix tail ih =>
      have hsame : ∀ other ∈ rest, next.get? other.path = store.get? other.path := by
        intro other hother
        exact fixFile_frame hfix (Entry.path_ne_of_distinct hdistinct hother)
      rw [List.map_cons, List.nodup_cons] at hdistinct
      obtain ⟨hfresh, hdistinct⟩ := hdistinct
      obtain ⟨hdone, htexts⟩ := ih hdistinct
      obtain ⟨text, htext, houtcome, hnext⟩ := text_of_fixFile hfix
      constructor
      · have hfirst : outcomeIn pattern store entry = outcome := by
          rw [outcomeIn, htext, houtcome]
        have hrest : ∀ other ∈ rest, outcomeIn pattern next other = outcomeIn pattern store other := by
          intro other hother
          rw [outcomeIn, outcomeIn, hsame other hother]
        rw [hdone, List.map_cons, hfirst]
        congr 1
        exact List.map_congr_left fun other hother => by rw [hrest other hother]
      · intro other hother
        rcases List.mem_cons.1 hother with rfl | hother
        · exact ⟨text, htext, (stretch_frame tail hfresh).trans hnext⟩
        · rw [← hsame other hother]
          exact htexts other hother

/-- Over entries with paths of their own, what is put back is never what was there in the
beginning. -/
theorem stretch_write_ne {new : String} (hdistinct : (entries.map Entry.path).Nodup)
    (h : Stretch (access others faults) pattern dryRun progress store entries final done events)
    (hwrite : .write path new ∈ events) :
    path ∈ entries.map Entry.path ∧ ∃ old, store.get? path = some old ∧ old ≠ new := by
  induction h with
  | nil => cases hwrite
  | @cons store next final entry rest outcome done events later hfix tail ih =>
      rw [List.map_cons, List.nodup_cons] at hdistinct
      obtain ⟨hfresh, hdistinct⟩ := hdistinct
      rw [List.mem_append, List.mem_append] at hwrite
      rcases hwrite with hwrite | hwrite | hwrite
      · obtain ⟨rfl, hold⟩ := write_ne_of_fixFile hfix hwrite
        exact ⟨List.mem_cons_self, hold⟩
      · cases progress <;> simp [reportOf] at hwrite
      · obtain ⟨hmem, old, hold, hne⟩ := ih hdistinct hwrite
        have hother : path ≠ entry.path := by
          rintro rfl
          exact hfresh hmem
        rw [fixFile_frame hfix hother] at hold
        exact ⟨List.mem_cons_of_mem _ hmem, old, hold, hne⟩

/-! ## Runs -/

/-- A run that succeeds is a stretch over its candidates, with the walk in front and the closing
reports behind it. -/
theorem exists_events_of_run_ok {config : Config} {summary : Summary}
    (hresult : (run (access entries faults) config progress store).result = .ok summary) :
    ∃ done events,
      Stretch (access entries faults) config.pattern config.dryRun progress store
        (config.suffix.candidates entries) (run (access entries faults) config progress store).store
        done events ∧
      summary = (Summary.empty config.dryRun).after done ∧
      (run (access entries faults) config progress store).events =
        .walk config.root :: .selected (config.suffix.candidates entries).length entries.length
          config.root config.suffix.text :: (events ++ closingOf progress summary) := by
  have hending := run_ending (access entries faults) config progress store
  generalize run (access entries faults) config progress store = made at hending hresult
  cases hending with
  | unwalked => cases hresult
  | stopped => cases hresult
  | @finished final found notes events done hwalk h =>
      obtain ⟨rfl, rfl, -⟩ := of_walk_eq_ok hwalk
      obtain rfl := Except.ok.inj hresult
      exact ⟨done, events, h, rfl, rfl⟩

/-- **A run changes the files that hold a reference.**  When a run that is no dry one succeeds over
entries with paths of their own, the changed paths of its summary are those of the candidates whose
text is another one now, in their order, and these are the candidates whose text held a reference.
No text is put back where it was before, and there are no more changed paths than candidates, nor
more than references that were rewritten. -/
theorem run_changes_mentioning (entries : List Entry) (faults : Faults) (config : Config)
    (progress : Bool) (store : Store) (summary : Summary)
    (hdistinct : (entries.map Entry.path).Nodup) (hdry : config.dryRun = false)
    (hresult : (run (access entries faults) config progress store).result = .ok summary) :
    let made := run (access entries faults) config progress store
    let paths := (config.suffix.candidates entries).map Entry.path
    summary.changed = paths.filter (fun path => made.store.get? path ≠ store.get? path) ∧
      summary.changed =
        paths.filter (fun path => (store.get? path).any fun text => config.pattern.Mentions text) ∧
      (∀ path new, .write path new ∈ made.events → ∃ old, store.get? path = some old ∧ old ≠ new) ∧
      summary.changedCount ≤ summary.scanned ∧ summary.changedCount ≤ summary.occurrences := by
  intro made paths
  obtain ⟨done, events, h, rfl, hevents⟩ := exists_events_of_run_ok hresult
  have hcandidates := config.suffix.distinct_candidates hdistinct
  obtain ⟨hdone, htexts⟩ := stretch_each hcandidates h
  obtain ⟨hscanned, hoccurrences⟩ := h.changed_le
  have hchanged : done.changed = paths.filter fun path =>
      (store.get? path).any fun text => config.pattern.Mentions text := by
    rw [hdone, Account.changed, List.filter_map, List.map_map, List.filter_map]
    congr 1
    refine List.filter_congr fun entry hentry => ?_
    obtain ⟨text, htext, -⟩ := htexts entry hentry
    simp only [Function.comp_apply, outcomeIn, htext, Option.any_some]
    rw [Bool.eq_iff_iff, Alias.isModified_outcome_iff, decide_eq_true_iff]
  have hdiffer : ∀ path ∈ paths,
      made.store.get? path ≠ store.get? path ↔
        (store.get? path).any (fun text => config.pattern.Mentions text) = true := by
    intro path hpath
    obtain ⟨entry, hentry, rfl⟩ := List.mem_map.1 hpath
    obtain ⟨text, htext, hafter⟩ := htexts entry hentry
    have hmade : made.store.get? entry.path = _ := hafter
    rw [hmade, htext, hdry, Option.any_some, decide_eq_true_iff, ne_eq, Option.some_inj]
    exact Alias.textAfter_ne_iff
  have hsummary := Account.changed_after_empty config.dryRun done
  refine ⟨?_, hsummary.trans hchanged, ?_, ?_, ?_⟩
  · rw [hsummary, hchanged]
    refine List.filter_congr fun path hpath => ?_
    rw [Bool.eq_iff_iff, decide_eq_true_iff]
    exact (hdiffer path hpath).symm
  · intro path new hwrite
    have hwrite' : Event.write path new ∈ events := by
      have hmem : Event.write path new ∈ (run (access entries faults) config progress store).events :=
        hwrite
      rw [hevents] at hmem
      cases progress <;> simpa [closingOf] using hmem
    exact (stretch_write_ne hcandidates h hwrite').2
  · simpa [Summary.changedCount, Summary.after_eq, Summary.empty] using hscanned
  · simpa [Summary.changedCount, Summary.after_eq, Summary.empty] using hoccurrences

/-- Two files with references, one without, and one that is no candidate. -/
def apartEntries : List Entry :=
  [⟨.ofText "a.js", ⟨0⟩⟩, ⟨.ofText "n.txt", ⟨0⟩⟩, ⟨.ofText "p.js", ⟨0⟩⟩, ⟨.ofText "s/b.js", ⟨1⟩⟩]

def apartStore : Store :=
  (sampleStore.set (.ofText "n.txt") "require(\"~/n\")").set (.ofText "p.js") "require(\"p\")"

/-- The usual run over these files. -/
theorem run_changes_mentioning_apart :
    let made := run (access apartEntries faultless) (.standard (.ofText "d")) true apartStore
    let paths := [Path.ofText "a.js", .ofText "p.js", .ofText "s/b.js"]
    let changed := [Path.ofText "a.js", .ofText "s/b.js"]
    changed = paths.filter (fun path => made.store.get? path ≠ apartStore.get? path) ∧
      changed = paths.filter (fun path =>
        (apartStore.get? path).any fun text => Alias.standard.Mentions text) ∧
      (∀ path new, .write path new ∈ made.events →
        ∃ old, apartStore.get? path = some old ∧ old ≠ new) ∧ 2 ≤ 3 ∧ 2 ≤ 3 :=
  run_changes_mentioning apartEntries faultless (.standard (.ofText "d")) true apartStore
    ⟨3, [.ofText "a.js", .ofText "s/b.js"], 3, false⟩ (by decide) rfl rfl

/-! ## The file of one entry -/

/-- What is told of the file of an entry: nothing, if the entry is no candidate. -/
def accountOf (config : Config) (store : Store) (entry : Entry) : Account :=
  if config.suffix.accepts entry.path then [(entry.path, outcomeIn config.pattern store entry)]
  else []

/-- The text of the file of an entry when a run is over. -/
def textOf (config : Config) (store : Store) (entry : Entry) : Option String :=
  if config.suffix.accepts entry.path then
    (store.get? entry.path).map fun text =>
      config.pattern.textAfter config.dryRun text entry.depth
  else store.get? entry.path

/-- A path that the suffix does not accept is no candidate. -/
theorem not_mem_candidates {suffix : Suffix} (h : suffix.accepts path = false) :
    path ∉ (suffix.candidates entries).map Entry.path := by
  intro hmem
  obtain ⟨entry, hentry, rfl⟩ := List.mem_map.1 hmem
  have haccepts := (List.mem_filter.1 hentry).2
  rw [h] at haccepts
  cases haccepts

/-- **What a run does to the file of an entry and tells of it**, whatever lies around it. -/
theorem run_of_entry {config : Config} {summary : Summary}
    (hdistinct : (entries.map Entry.path).Nodup)
    (hresult : (run (access entries faults) config progress store).result = .ok summary)
    (hmem : entry ∈ entries) :
    (run (access entries faults) config progress store).store.get? entry.path =
        textOf config store entry ∧
      (entry.path ∈ summary.changed ↔ entry.path ∈ (accountOf config store entry).changed) ∧
      ((run (access entries faults) config progress store).events.filterMap Event.file?).filter
          (fun report => report.1 = entry.path) =
        if progress then (accountOf config store entry).reports else [] := by
  obtain ⟨done, events, h, rfl, hevents⟩ := exists_events_of_run_ok hresult
  obtain ⟨hdone, htexts⟩ := stretch_each (config.suffix.distinct_candidates hdistinct) h
  have habout : done.about entry.path = accountOf config store entry := by
    have hfilter : (config.suffix.candidates entries).filter (fun other => other.path = entry.path) =
        if config.suffix.accepts entry.path then [entry] else [] := by
      rw [Suffix.candidates, List.filter_comm, filter_path_eq hdistinct hmem]
      cases haccepts : config.suffix.accepts entry.path <;> simp [haccepts]
    have hmap : done.about entry.path =
        ((config.suffix.candidates entries).filter fun other => other.path = entry.path).map
          fun other => (other.path, outcomeIn config.pattern store other) := by
      rw [hdone]
      exact List.filter_map
    rw [hmap, hfilter, accountOf]
    split <;> rfl
  refine ⟨?_, ?_, ?_⟩
  · unfold textOf
    split
    · rename_i haccepts
      obtain ⟨text, htext, hafter⟩ := htexts entry (List.mem_filter.2 ⟨hmem, haccepts⟩)
      rw [hafter, htext]
      rfl
    · rename_i hother
      exact stretch_frame h (not_mem_candidates (by simpa using hother))
  · rw [Account.changed_after_empty, Account.mem_changed_iff, habout]
  · have hclosing := closingOf_quiet progress ((Summary.empty config.dryRun).after done)
    have hreports : (run (access entries faults) config progress store).events.filterMap Event.file? =
        if progress then done.reports else [] := by
      rw [hevents, List.filterMap_cons_none rfl, List.filterMap_cons_none rfl, List.filterMap_append,
        h.reports, hclosing.2.2.2, List.append_nil]
    rw [hreports]
    cases progress with
    | false => rfl
    | true => exact (Account.reports_about done entry.path).trans (congrArg Account.reports habout)

/-- **Files do not influence each other.**  Two runs with one pattern, one suffix and the same choice
on writing may go over other entries, in another order and over other texts.  If both succeed, and in
each no two entries have one path, then the file of an entry that both have, with the same text in the
beginning, has the same text in the end; it is among the changed ones in both or in neither, and the
same is reported of it.  A file whose path does not end in the suffix keeps its text and is not even
read. -/
theorem files_stay_apart (entries entries' : List Entry) (faults faults' : Faults)
    (config config' : Config) (progress : Bool) (store store' : Store) (summary summary' : Summary)
    (hdistinct : (entries.map Entry.path).Nodup) (hdistinct' : (entries'.map Entry.path).Nodup)
    (hpattern : config'.pattern = config.pattern) (hsuffix : config'.suffix = config.suffix)
    (hdry : config'.dryRun = config.dryRun)
    (hresult : (run (access entries faults) config progress store).result = .ok summary)
    (hresult' : (run (access entries' faults') config' progress store').result = .ok summary') :
    let made := run (access entries faults) config progress store
    let made' := run (access entries' faults') config' progress store'
    let reports (made : Run Store) (path : Path) :=
      (made.events.filterMap Event.file?).filter fun report => report.1 = path
    (∀ entry, entry ∈ entries → entry ∈ entries' → store'.get? entry.path = store.get? entry.path →
      made'.store.get? entry.path = made.store.get? entry.path ∧
        (entry.path ∈ summary'.changed ↔ entry.path ∈ summary.changed) ∧
        reports made' entry.path = reports made entry.path) ∧
      ∀ entry ∈ entries, config.suffix.accepts entry.path = false →
        made.store.get? entry.path = store.get? entry.path ∧
          entry.path ∉ made.events.filterMap Event.read? := by
  intro made made' reports
  refine ⟨?_, ?_⟩
  · intro entry hmem hmem' hsame
    obtain ⟨htext, hchanged, hreports⟩ := run_of_entry hdistinct hresult hmem
    obtain ⟨htext', hchanged', hreports'⟩ := run_of_entry hdistinct' hresult' hmem'
    have haccount : accountOf config' store' entry = accountOf config store entry := by
      simp only [accountOf, outcomeIn, hsuffix, hpattern, hsame]
    have hafter : textOf config' store' entry = textOf config store entry := by
      simp only [textOf, hsuffix, hpattern, hdry, hsame]
    refine ⟨?_, ?_, ?_⟩
    · exact htext'.trans (hafter.trans htext.symm)
    · rw [hchanged', hchanged, haccount]
    · rw [haccount] at hreports'
      exact hreports'.trans hreports.symm
  · intro entry _ hother
    have hfresh : entry.path ∉ (config.suffix.candidates entries).map Entry.path :=
      not_mem_candidates hother
    obtain ⟨done, events, h, -, hevents⟩ := exists_events_of_run_ok hresult
    refine ⟨stretch_frame h hfresh, ?_⟩
    have hreads : made.events.filterMap Event.read? =
        (config.suffix.candidates entries).map Entry.path := by
      have hclosing := closingOf_quiet progress summary
      change (run (access entries faults) config progress store).events.filterMap Event.read? = _
      rw [hevents, List.filterMap_cons_none rfl, List.filterMap_cons_none rfl, List.filterMap_append,
        h.reads, hclosing.1, List.append_nil]
    rw [hreads]
    exact hfresh

/-- A run over two of these files among others, in another order. -/
theorem files_stay_apart_elsewhere :
    let config := Config.standard (.ofText "d")
    let entries' : List Entry :=
      [⟨.ofText "s/b.js", ⟨1⟩⟩, ⟨.ofText "q.js", ⟨2⟩⟩, ⟨.ofText "n.txt", ⟨0⟩⟩]
    let store' := apartStore.set (.ofText "q.js") "require(\"~/q\")"
    let made := run (access apartEntries faultless) config true apartStore
    let made' := run (access entries' faultless) config true store'
    let reports (made : Run Store) (path : Path) :=
      (made.events.filterMap Event.file?).filter fun report => report.1 = path
    (∀ entry, entry ∈ apartEntries → entry ∈ entries' →
      store'.get? entry.path = apartStore.get? entry.path →
      made'.store.get? entry.path = made.store.get? entry.path ∧
        (entry.path ∈ [Path.ofText "s/b.js", .ofText "q.js"] ↔
          entry.path ∈ [Path.ofText "a.js", .ofText "s/b.js"]) ∧
        reports made' entry.path = reports made entry.path) ∧
      ∀ entry ∈ apartEntries, config.suffix.accepts entry.path = false →
        made.store.get? entry.path = apartStore.get? entry.path ∧
          entry.path ∉ made.events.filterMap Event.read? :=
  files_stay_apart apartEntries
    [⟨.ofText "s/b.js", ⟨1⟩⟩, ⟨.ofText "q.js", ⟨2⟩⟩, ⟨.ofText "n.txt", ⟨0⟩⟩] faultless faultless
    (.standard (.ofText "d")) (.standard (.ofText "d")) true apartStore
    (apartStore.set (.ofText "q.js") "require(\"~/q\")")
    ⟨3, [.ofText "a.js", .ofText "s/b.js"], 3, false⟩
    ⟨2, [.ofText "s/b.js", .ofText "q.js"], 3, false⟩ (by decide) (by decide) rfl rfl rfl rfl rfl

end Memory

end Dealias
