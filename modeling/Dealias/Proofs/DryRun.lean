import Dealias.Proofs.Lockstep
import Dealias.Proofs.Settled

/-!
# Dry runs

A dry run puts nothing back, so it leaves its store as it was, whatever the store is and however the
run ends (`run_of_dryRun`).

In memory it also tells what the run itself will do, if no two entries have one path
(`Memory.dry_run_tells_run`).  The store of the run drifts away from that of the dry run, but only at
files that are done; and since no file is met twice, both read the same texts to the end.
-/

namespace Dealias

/-! ## Any store -/

section

variable {σ : Type} {access : Access σ} {pattern : Alias} {progress : Bool}

/-- A dry run asks for no text to be put back, also where it fails. -/
theorem fixFile_writes_of_dryRun (access : Access σ) (pattern : Alias) (store : σ) (entry : Entry) :
    (fixFile access pattern true store entry).events.filterMap Event.write? = [] := by
  have hstep := fixFile_handling access pattern true store entry
  generalize fixFile access pattern true store entry = fix at hstep
  cases hstep with
  | unread => rfl
  | clean => rfl
  | foretold => rfl
  | unwritten _ _ hdry => cases hdry
  | written _ _ hdry => cases hdry

/-- A dry run leaves the store as it is. -/
theorem Stretch.store_of_dryRun {store final : σ} {entries : List Entry} {done : Account}
    {events : List Event}
    (h : Stretch access pattern true progress store entries final done events) : final = store := by
  induction h with
  | nil => rfl
  | @cons store next _ entry _ _ _ _ _ hfix _ ih =>
      have hstep := fixFile_handling access pattern true store entry
      rw [hfix] at hstep
      cases hstep with
      | clean => exact ih
      | foretold => exact ih
      | written _ _ hdry => cases hdry

/-- **A dry run puts nothing back**: its store is what it was, and beside what the walk may note there
is no request for a text to be put back. -/
theorem run_of_dryRun {config : Config} (access : Access σ) (progress : Bool) (store : σ)
    (hdry : config.dryRun = true) :
    (run access config progress store).store = store ∧
      (run access config progress store).events.filterMap Event.write? =
        (access.walk store config.root).1.filterMap Event.write? := by
  have hending := run_ending access config progress store
  generalize run access config progress store = made at hending
  cases hending with
  | unwalked hwalk =>
      rw [hwalk]
      exact ⟨rfl, rfl⟩
  | @finished final entries notes events done hwalk h =>
      have hwrites := h.run_writes hwalk
      rw [(Ending.finished hwalk h).run_eq, hdry] at hwrites
      rw [hdry] at h
      rw [hwalk]
      exact ⟨h.store_of_dryRun, by simpa [hdry] using hwrites⟩
  | @stopped final entries before after entry notes events failed done e hwalk hsplit h hfix =>
      rw [hdry] at h hfix
      have hstop := fixFile_writes_of_dryRun access config.pattern final entry
      rw [hfix] at hstop
      rw [hwalk]
      refine ⟨h.store_of_dryRun, ?_⟩
      change (notes ++ .selected .. :: (events ++ failed)).filterMap Event.write? = _
      rw [List.filterMap_append, List.filterMap_cons_none rfl, List.filterMap_append, h.writes, hstop]
      simp

end

/-! ## In memory -/

namespace Memory

variable {entries rest : List Entry} {faults : Faults} {pattern : Alias} {store other : Store}
  {entry : Entry}

/-- The entries have paths of their own, and two stores hold the same texts for them. -/
structure SameAhead (entries : List Entry) (store other : Store) : Prop where
  distinct : (entries.map Entry.path).Nodup
  same : ∀ entry ∈ entries, other.get? entry.path = store.get? entry.path

theorem SameAhead.tail (h : SameAhead (entry :: rest) store other) : SameAhead rest store other := by
  have hdistinct := h.distinct
  rw [List.map_cons, List.nodup_cons] at hdistinct
  refine ⟨hdistinct.2, ?_⟩
  intro later hlater
  exact h.same later (List.mem_cons_of_mem entry hlater)

/-- Reading depends on the text at the path only. -/
theorem read_congr {path : Path} (h : other.get? path = store.get? path) :
    (access entries faults).read other path = (access entries faults).read store path := by
  simp only [access, h]

/-- **Handling a file comes to the same in a dry run**, if no fault lies on writing.  Only where a
text is put back do the stores part, and its path does not come again. -/
theorem SameAhead.alike (h : SameAhead (entry :: rest) store other)
    (hwritable : ∀ path, faults.write path = none) :
    Alike (SameAhead rest) (fixFile (access entries faults) pattern false store entry)
      (fixFile (access entries faults) pattern true other entry) := by
  have hread : (access entries faults).read other entry.path =
      (access entries faults).read store entry.path := read_congr (h.same entry List.mem_cons_self)
  have hstep := fixFile_handling (access entries faults) pattern false store entry
  generalize hfix : fixFile (access entries faults) pattern false store entry = fix at hstep
  cases hstep with
  | @unread e hfailed =>
      have hdry := (Handling.unread (hread.trans hfailed) : Handling _ pattern true other entry _)
      rw [hdry.fixFile_eq]
      exact .failed e
  | clean hok hrewrite =>
      have hdry :=
        (Handling.clean (hread.trans hok) hrewrite : Handling _ pattern true other entry _)
      rw [hdry.fixFile_eq]
      exact .done .unchanged h.tail
  | foretold _ _ hdry => cases hdry
  | unwritten _ _ _ hwrite =>
      obtain ⟨fault, hfault, -⟩ := write_eq_error_iff.1 hwrite
      rw [hwritable entry.path] at hfault
      cases hfault
  | @written text new n next hok hrewrite _ _ =>
      have hdry := (Handling.foretold (hread.trans hok) hrewrite rfl :
        Handling _ pattern true other entry _)
      rw [hdry.fixFile_eq]
      refine .done (.rewritten n) ⟨h.tail.distinct, ?_⟩
      intro later hlater
      rw [fixFile_frame hfix (Entry.path_ne_of_distinct h.distinct hlater)]
      exact h.tail.same later hlater

/-- **A dry run tells what the run will do.**  Over entries with paths of their own, and with no fault
on writing, it puts nothing back and leaves the store as it is.  Yet it fails where the run fails and
for the same reason, or it ends in the same summary but for the mark of a dry run; and who watches
the progress is told the same. -/
theorem dry_run_tells_run (entries : List Entry) (walk : Option Fault) (read : Path → Option Fault)
    (config : Config) (progress : Bool) (store : Store)
    (hdistinct : (entries.map Entry.path).Nodup) :
    let faults : Faults := { walk := walk, read := read }
    let dry := run (access entries faults) { config with dryRun := true } progress store
    let real := run (access entries faults) { config with dryRun := false } progress store
    dry.store = store ∧ dry.events.filterMap Event.write? = [] ∧
      dry.result = real.result.map (fun summary => { summary with dryRun := true }) ∧
      dry.events.filter Event.isProgress = real.events.filter Event.isProgress := by
  intro faults dry real
  have hkept : dry.store = store ∧ dry.events.filterMap Event.write? = [] :=
    run_of_dryRun (access entries faults) progress store rfl
  have hlockstep : InLockstep (fun store other => ∃ rest, SameAhead rest store other) true real
      dry := by
    apply run_inLockstep { config with dryRun := false } config.mode progress
    · intro entry rest store other h
      exact h.alike fun path => rfl
    · rfl
    · exact ⟨List.nodup_nil, by simp⟩
    · intro notes found hwalk
      obtain ⟨-, rfl, -⟩ := of_walk_eq_ok hwalk
      exact ⟨config.suffix.distinct_candidates hdistinct, fun entry _ => rfl⟩
  exact ⟨hkept.1, hkept.2, hlockstep.result, hlockstep.progress⟩

/-- Two files side by side, and one whose text cannot be read. -/
def unreadableEntries : List Entry :=
  [⟨.ofText "a.js", ⟨0⟩⟩, ⟨.ofText "s/b.js", ⟨1⟩⟩, ⟨.ofText "t.js", ⟨0⟩⟩]

/-- Both runs fail at the third file; the first two are rewritten in one of them. -/
theorem dry_run_tells_run_unreadable :
    let read := fun path => if path = .ofText "t.js" then some (.system .accessDenied) else none
    let dry := run (access unreadableEntries { read := read })
      { Config.standard (.ofText "d") with dryRun := true } true sampleStore
    let real := run (access unreadableEntries { read := read })
      { Config.standard (.ofText "d") with dryRun := false } true sampleStore
    dry.store = sampleStore ∧ dry.events.filterMap Event.write? = [] ∧
      dry.result = real.result.map (fun summary => { summary with dryRun := true }) ∧
      dry.events.filter Event.isProgress = real.events.filter Event.isProgress :=
  dry_run_tells_run unreadableEntries none
    (fun path => if path = .ofText "t.js" then some (.system .accessDenied) else none)
    (.standard (.ofText "d")) true sampleStore (by decide)

end Memory

end Dealias
