import Dealias.Proofs.Stretch
import Dealias.Run.Memory

/-!
# The first fault of a run in memory

Faults may be laid on any paths.  A fault on reading strikes when its file is handled; a fault on
writing lies still until its file is handled with a reference in it, in a run that is no dry one.
`Struck` says when handling an entry is struck, by the store of that moment and not by the steps of
the run.

A run fails while fixing exactly when one of its candidates is struck in the store that the
candidates before it left, and then it ends as a run over those before it, with that fault.
-/

namespace Dealias

/-- The path of the file that could not be put back, if that is what failed. -/
def SystemError.write? : SystemError → Option Path
  | fileWrite path _ => some path
  | _ => none

namespace Memory

variable {entries others : List Entry} {faults : Faults} {pattern : Alias}
  {dryRun progress : Bool} {store final : Store} {entry : Entry}

/-- The fault that strikes when an entry is handled. -/
inductive Struck (faults : Faults) (pattern : Alias) (dryRun : Bool) (store : Store)
    (entry : Entry) : SystemError → Prop
  | reading {fault : Fault} (hread : faults.read entry.path = some fault) :
      Struck faults pattern dryRun store entry (.fileRead entry.path fault)
  | missing (hread : faults.read entry.path = none) (hmissing : store.get? entry.path = none) :
      Struck faults pattern dryRun store entry (.fileRead entry.path (.ofKind .notFound))
  | writing {text : String} {fault : Fault} (hread : faults.read entry.path = none)
      (htext : store.get? entry.path = some text) (hmentions : pattern.Mentions text)
      (hdry : dryRun = false) (hwrite : faults.write entry.path = some fault) :
      Struck faults pattern dryRun store entry (.fileWrite entry.path fault)

/-- A text is read where no fault lies and the file is there. -/
theorem read_eq_ok_iff {path : Path} {text : String} :
    (access entries faults).read store path = .ok text ↔
      faults.read path = none ∧ store.get? path = some text := by
  cases hfault : faults.read path <;> cases htext : store.get? path <;>
    simp [access, hfault, htext]

/-- Reading fails where a fault lies on it, and else where the store holds no text for the path. -/
theorem read_eq_error_iff {path : Path} {e : SystemError} :
    (access entries faults).read store path = .error e ↔
      (∃ fault, faults.read path = some fault ∧ e = .fileRead path fault) ∨
        (faults.read path = none ∧ store.get? path = none ∧
          e = .fileRead path (.ofKind .notFound)) := by
  cases hfault : faults.read path <;> cases htext : store.get? path <;>
    simp [access, hfault, htext, eq_comm]

/-- A text is put back where no fault lies. -/
theorem write_eq_ok_iff {path : Path} {text : String} :
    (access entries faults).write store path text = .ok final ↔
      faults.write path = none ∧ final = store.set path text := by
  cases hfault : faults.write path <;> simp [access, hfault, eq_comm]

/-- Writing fails exactly where a fault lies on it. -/
theorem write_eq_error_iff {path : Path} {text : String} {e : SystemError} :
    (access entries faults).write store path text = .error e ↔
      ∃ fault, faults.write path = some fault ∧ e = .fileWrite path fault := by
  cases hfault : faults.write path <;> simp [access, hfault, eq_comm]

/-- What is asked for when an entry is struck: its text, and in the end to put it back if that is
what fails. -/
theorem fixFile_eq_error {failed : List Event} {e : SystemError}
    (hfix : fixFile (access entries faults) pattern dryRun store entry = ⟨failed, .error e⟩) :
    Struck faults pattern dryRun store entry e ∧
      failed.filterMap Event.read? = [entry.path] ∧
      failed.filterMap Event.write? = e.write?.toList ∧
      failed.filterMap Event.putBack? = [] ∧ failed.filterMap Event.file? = [] := by
  have hstep := fixFile_handling (access entries faults) pattern dryRun store entry
  rw [hfix] at hstep
  cases hstep with
  | unread hread =>
      rcases read_eq_error_iff.1 hread with ⟨fault, hfault, rfl⟩ | ⟨hfault, hmissing, rfl⟩
      · exact ⟨.reading hfault, rfl, rfl, rfl, rfl⟩
      · exact ⟨.missing hfault hmissing, rfl, rfl, rfl, rfl⟩
  | unwritten hread hrewrite hdry hwrite =>
      obtain ⟨hfault, htext⟩ := read_eq_ok_iff.1 hread
      obtain ⟨fault, hwfault, rfl⟩ := write_eq_error_iff.1 hwrite
      have hmentions := (Alias.rewrite_eq_rewritten hrewrite).1
      exact ⟨.writing hfault htext hmentions hdry hwfault, rfl, rfl, rfl, rfl⟩

/-- An entry that is struck fails. -/
theorem Struck.fixFile_eq (entries : List Entry) {e : SystemError}
    (h : Struck faults pattern dryRun store entry e) :
    ∃ failed, fixFile (access entries faults) pattern dryRun store entry = ⟨failed, .error e⟩ := by
  cases h with
  | reading hread =>
      have herror : (access entries faults).read store entry.path = .error _ :=
        read_eq_error_iff.2 (.inl ⟨_, hread, rfl⟩)
      exact ⟨_, (Handling.unread herror).fixFile_eq⟩
  | missing hread hmissing =>
      have herror : (access entries faults).read store entry.path = .error _ :=
        read_eq_error_iff.2 (.inr ⟨hread, hmissing, rfl⟩)
      exact ⟨_, (Handling.unread herror).fixFile_eq⟩
  | @writing text fault hread htext hmentions hdry hwrite =>
      have hok : (access entries faults).read store entry.path = .ok text :=
        read_eq_ok_iff.2 ⟨hread, htext⟩
      cases hrewrite : pattern.rewrite text entry.depth with
      | unchanged => exact absurd hmentions (Alias.rewrite_eq_unchanged_iff.1 hrewrite)
      | rewritten new n =>
          have herror : (access entries faults).write store entry.path new = .error _ :=
            write_eq_error_iff.2 ⟨fault, hwrite, rfl⟩
          exact ⟨_, (Handling.unwritten hok hrewrite hdry herror).fixFile_eq⟩

/-- What a walk would find does not matter to a stretch. -/
theorem stretch_of_entries {done : Account} {events : List Event} {list : List Entry}
    (h : Stretch (access entries faults) pattern dryRun progress store list final done events) :
    Stretch (access others faults) pattern dryRun progress store list final done events := by
  induction h with
  | nil store => exact .nil store
  | cons hfix _ ih => exact .cons hfix ih

/-- A walk without a fault finds the entries. -/
theorem walk_eq_ok {root : Path} (hfaults : faults.walk = none) :
    (access entries faults).walk store root = ([], .ok entries) := by
  simp [access, hfaults]

/-- A walk that succeeds has the entries as they are given and makes no notes. -/
theorem of_walk_eq_ok {root : Path} {notes : List Event}
    (hwalk : (access entries faults).walk store root = (notes, .ok others)) :
    notes = [] ∧ others = entries ∧ faults.walk = none := by
  cases hfault : faults.walk <;> simp_all [access]

/-- A candidate that is struck behind others that are handled without a failure: a run over those
alone succeeds, and the candidate is struck in the store that it leaves. -/
structure FirstStruck (entries : List Entry) (faults : Faults) (config : Config) (progress : Bool)
    (store : Store) (before : List Entry) (entry : Entry) (after : List Entry)
    (e : SystemError) : Prop where
  split : config.suffix.candidates entries = before ++ entry :: after
  handled : ∃ summary, (run (access before faults) config progress store).result = .ok summary
  struck : Struck faults config.pattern config.dryRun
    (run (access before faults) config progress store).store entry e

/-- A run over the first candidates alone makes the stretch that the whole run begins with. -/
theorem run_before {config : Config} {before rest : List Entry} {done : Account}
    {events : List Event} (hfaults : faults.walk = none)
    (hsplit : config.suffix.candidates entries = before ++ rest)
    (h : Stretch (access entries faults) config.pattern config.dryRun progress store before final
      done events) :
    run (access before faults) config progress store =
      ⟨.walk config.root :: .selected before.length before.length config.root config.suffix.text ::
          (events ++ closingOf progress ((Summary.empty config.dryRun).after done)),
        final, .ok ((Summary.empty config.dryRun).after done)⟩ := by
  have hbefore := Suffix.candidates_of_append hsplit
  have hstretch : Stretch (access before faults) config.pattern config.dryRun progress store
      (config.suffix.candidates before) final done events := by
    rw [hbefore]
    exact stretch_of_entries h
  have hrun := (Ending.finished (walk_eq_ok hfaults) hstretch).run_eq
  rwa [hbefore] at hrun

/-- The stretch up to the first candidate that is struck. -/
theorem FirstStruck.exists_stretch {config : Config} {before after : List Entry}
    {e : SystemError} (h : FirstStruck entries faults config progress store before entry after e) :
    ∃ final done events failed,
      Stretch (access entries faults) config.pattern config.dryRun progress store before final
        done events ∧
      fixFile (access entries faults) config.pattern config.dryRun final entry =
        ⟨failed, .error e⟩ ∧
      faults.walk = none := by
  obtain ⟨hsplit, ⟨summary, hresult⟩, hstruck⟩ := h
  have hending := run_ending (access before faults) config progress store
  generalize run (access before faults) config progress store = made at hending hresult hstruck
  cases hending with
  | unwalked => cases hresult
  | stopped => cases hresult
  | finished hwalk hstretch =>
      obtain ⟨-, rfl, hfaults⟩ := of_walk_eq_ok hwalk
      rw [Suffix.candidates_of_append hsplit] at hstretch
      obtain ⟨failed, hfix⟩ := hstruck.fixFile_eq entries
      exact ⟨_, _, _, failed, stretch_of_entries hstretch, hfix, hfaults⟩

/-- A run stops at an entry, and all it did before is what another run did. -/
structure StopsAt (whole upTo : Run Store) (progress : Bool) (before : List Entry) (entry : Entry)
    (e : SystemError) : Prop where
  result : whole.result = .error (.stopped (.fixing entry.path) (.system e))
  store : whole.store = upTo.store
  reads : whole.events.filterMap Event.read? = before.map Entry.path ++ [entry.path]
  /-- The last request to put a text back is the one that fails, if that is what fails. -/
  writes : whole.events.filterMap Event.write? = upTo.events.filterMap Event.write? ++
    e.write?.toList
  reports : whole.events.filterMap Event.file? = upTo.events.filterMap Event.file?
  reported : (whole.events.filterMap Event.file?).map Prod.fst =
    if progress then before.map Entry.path else []

/-- **A run stops at the first file that is struck**, in the state that a run over the files before
it leaves. -/
theorem FirstStruck.stopsAt {config : Config} {before after : List Entry} {e : SystemError}
    (hfirst : FirstStruck entries faults config progress store before entry after e) :
    StopsAt (run (access entries faults) config progress store)
      (run (access before faults) config progress store) progress before entry e := by
  obtain ⟨final, done, events, failed, h, hfix, hfaults⟩ := hfirst.exists_stretch
  have hwhole := (Ending.stopped (walk_eq_ok hfaults) hfirst.split h hfix).run_eq
  have hupTo := run_before hfaults hfirst.split h
  have hclosing := closingOf_quiet progress ((Summary.empty config.dryRun).after done)
  obtain ⟨-, hreads, hwrites, -, hreports⟩ := fixFile_eq_error hfix
  rw [hwhole, hupTo]
  refine ⟨rfl, rfl, ?_, ?_, ?_, ?_⟩
  · change (events ++ failed).filterMap Event.read? = _
    rw [List.filterMap_append, h.reads, hreads]
  · change (events ++ failed).filterMap Event.write? = (events ++ _).filterMap Event.write? ++ _
    rw [List.filterMap_append, List.filterMap_append, hwrites, hclosing.2.1, List.append_nil]
  · change (events ++ failed).filterMap Event.file? = (events ++ _).filterMap Event.file?
    rw [List.filterMap_append, List.filterMap_append, hreports, hclosing.2.2.2]
  · change ((events ++ failed).filterMap Event.file?).map Prod.fst = _
    rw [List.filterMap_append, hreports, h.reports, List.append_nil, ← h.map_fst]
    cases progress with
    | false => rfl
    | true => simp [Account.reports]

/-- A run that fails while fixing has a first candidate that is struck. -/
theorem exists_firstStruck {config : Config} {path : Path} {cause : Failure}
    (hresult : (run (access entries faults) config progress store).result =
      .error (.stopped (.fixing path) cause)) :
    ∃ before entry after e,
      FirstStruck entries faults config progress store before entry after e := by
  have hending := run_ending (access entries faults) config progress store
  generalize run (access entries faults) config progress store = made at hending hresult
  cases hending with
  | unwalked => cases hresult
  | finished => cases hresult
  | @stopped _ _ before after entry _ _ _ _ e hwalk hsplit h hfix =>
      obtain ⟨-, rfl, hfaults⟩ := of_walk_eq_ok hwalk
      have hbefore := run_before hfaults hsplit h
      obtain ⟨hstruck, -⟩ := fixFile_eq_error hfix
      refine ⟨before, entry, after, e, hsplit, ⟨_, congrArg Run.result hbefore⟩, ?_⟩
      rw [hbefore]
      exact hstruck

/-- **A run that fails while fixing fails at its first struck candidate.**  It fails so exactly when
some candidate is struck in the store that a run over the candidates before it leaves.  Then the
failure is the one that strikes this candidate, the store is the one left before it, and nothing
behind it is read, put back or reported. -/
theorem run_fails_at_first_struck (entries : List Entry) (read write : Path → Option Fault)
    (config : Config) (progress : Bool) (store : Store) :
    let faults : Faults := { read := read, write := write }
    let whole := run (access entries faults) config progress store
    ((∃ path cause, whole.result = .error (.stopped (.fixing path) cause)) ↔
      ∃ before entry after e,
        FirstStruck entries faults config progress store before entry after e) ∧
    ∀ before entry after e,
      FirstStruck entries faults config progress store before entry after e →
        StopsAt whole (run (access before faults) config progress store) progress before entry
          e := by
  intro faults whole
  refine ⟨⟨?_, ?_⟩, fun before entry after e hfirst => hfirst.stopsAt⟩
  · rintro ⟨path, cause, hresult⟩
    exact exists_firstStruck hresult
  · rintro ⟨before, entry, after, e, hfirst⟩
    exact ⟨_, _, hfirst.stopsAt.result⟩

/-- A file that is found twice, at two depths, and another one between. -/
def sampleEntries : List Entry :=
  [⟨.ofText "a.js", ⟨0⟩⟩, ⟨.ofText "s/b.js", ⟨1⟩⟩, ⟨.ofText "a.js", ⟨3⟩⟩]

def sampleStore : Store :=
  (Table.empty.set (.ofText "a.js") "require(\"~/x\")").set (.ofText "s/b.js")
    "require(\"~/y\");require(\"~/z\")"

/-- One of the files cannot be put back. -/
def sampleWrite (path : Path) : Option Fault :=
  if path = .ofText "s/b.js" then some (.system .noSpace) else none

/-- The first file is done, the second one fails, and the third entry is not met. -/
theorem run_fails_at_sampleWrite :
    (run (access sampleEntries { write := sampleWrite }) (.standard (.ofText "d")) true
      sampleStore).result = .error (.stopped (.fixing (.ofText "s/b.js"))
        (.system (.fileWrite (.ofText "s/b.js") (.system .noSpace)))) := by
  have hstops := (run_fails_at_first_struck sampleEntries (fun _ => none) sampleWrite
    (.standard (.ofText "d")) true sampleStore).2 [⟨.ofText "a.js", ⟨0⟩⟩] ⟨.ofText "s/b.js", ⟨1⟩⟩
    [⟨.ofText "a.js", ⟨3⟩⟩] (.fileWrite (.ofText "s/b.js") (.system .noSpace))
    ⟨rfl, ⟨_, rfl⟩, .writing rfl rfl (by decide) rfl rfl⟩
  exact hstops.result

end Memory

end Dealias
