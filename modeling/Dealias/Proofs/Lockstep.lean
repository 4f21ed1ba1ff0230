import Dealias.Proofs.Stretch

/-!
# Runs in lockstep

Two runs over the same entries may put their texts back in different ways, or one of them not at
all.  They are in lockstep if a relation between their stores is carried along by each entry:
handling it fails in both for the same reason, or has the same outcome in both and keeps the
relation for the entries behind it (`Alike`).

Then the runs as a whole come to the same (`fixAll_inLockstep`, `run_inLockstep`): they stop at the
same file, or end in the same summary but for the mark of a dry run, and who watches them is told
the same.  The relation may depend on the entries that are left, since two stores that drift apart
need to agree on those only.
-/

namespace Dealias

variable {σ τ : Type}

/-- Two handlings of a file come to the same: they fail for one reason, or they have one outcome and
leave stores that are related. -/
inductive Alike (related : σ → τ → Prop) : Fix σ → Fix τ → Prop
  | failed {events others : List Event} (e : SystemError) :
      Alike related ⟨events, .error e⟩ ⟨others, .error e⟩
  | done {events others : List Event} {store : σ} {other : τ} (outcome : Outcome)
      (h : related store other) :
      Alike related ⟨events, .ok (store, outcome)⟩ ⟨others, .ok (other, outcome)⟩

/-- The summary of a run that is marked as a dry one, or as none. -/
def Summary.marked (dryRun : Bool) (s : Summary) : Summary :=
  { s with dryRun := dryRun }

theorem Summary.record_marked (dryRun : Bool) (s : Summary) (path : Path) (outcome : Outcome) :
    (s.marked dryRun).record path outcome = (s.record path outcome).marked dryRun := rfl

/-- Two runs come to the same: they end alike, they tell the same to who watches them, and the
stores that they leave are related. -/
structure InLockstep (related : σ → τ → Prop) (dryRun : Bool) (first : Run σ) (second : Run τ) :
    Prop where
  stores : related first.store second.store
  result : second.result = first.result.map (Summary.marked dryRun)
  progress : second.events.filter Event.isProgress = first.events.filter Event.isProgress

variable {access : Access σ} {access' : Access τ} {pattern : Alias} {dryRun dryRun' : Bool}
  {related : List Entry → σ → τ → Prop}

/-- Handling a file is no report of it. -/
theorem fixFile_progress (access : Access σ) (pattern : Alias) (dryRun : Bool) (store : σ)
    (entry : Entry) :
    (fixFile access pattern dryRun store entry).events.filter Event.isProgress = [] := by
  have hstep := fixFile_handling access pattern dryRun store entry
  generalize fixFile access pattern dryRun store entry = fix at hstep
  cases hstep <;> rfl

/-- **What each entry carries along is carried along by all of them.**  What is related speaks of the
entries that are left, and so changes with every step. -/
theorem fixAll_inLockstep (progress : Bool)
    (hstep : ∀ entry rest store other, related (entry :: rest) store other →
      Alike (related rest) (fixFile access pattern dryRun store entry)
        (fixFile access' pattern dryRun' other entry))
    (summary : Summary) {entries : List Entry} {store : σ} {other : τ}
    (h : related entries store other) :
    InLockstep (fun store other => ∃ rest, related rest store other) dryRun'
      (fixAll access pattern dryRun progress store summary entries)
      (fixAll access' pattern dryRun' progress other (summary.marked dryRun') entries) := by
  induction entries generalizing summary store other with
  | nil => exact ⟨⟨[], h⟩, rfl, rfl⟩
  | cons entry rest ih =>
      have hquiet := fixFile_progress access pattern dryRun store entry
      have hquiet' := fixFile_progress access' pattern dryRun' other entry
      have halike := hstep entry rest store other h
      unfold fixAll
      generalize fixFile access pattern dryRun store entry = fix at hquiet halike
      generalize fixFile access' pattern dryRun' other entry = fix' at hquiet' halike
      cases halike with
      | failed e => exact ⟨⟨entry :: rest, h⟩, rfl, hquiet'.trans hquiet.symm⟩
      | done outcome hrest =>
          have hlater := ih (summary.record entry.path outcome) hrest
          refine ⟨hlater.stores, hlater.result, ?_⟩
          have hprogress := hlater.progress
          simp only [List.filter_append, Summary.record_marked] at hprogress hquiet hquiet' ⊢
          rw [hquiet, hquiet', hprogress]

/-- **Runs that walk alike are in lockstep if their files are.** -/
theorem run_inLockstep (config : Config) (mode : WriteMode) (progress : Bool) (store : σ)
    (other : τ)
    (hstep : ∀ entry rest store other, related (entry :: rest) store other →
      Alike (related rest) (fixFile access config.pattern config.dryRun store entry)
        (fixFile access' config.pattern dryRun' other entry))
    (hwalk : access'.walk other config.root = access.walk store config.root)
    (hnone : related [] store other)
    (hentries : ∀ notes entries, access.walk store config.root = (notes, .ok entries) →
      related (config.suffix.candidates entries) store other) :
    InLockstep (fun store other => ∃ rest, related rest store other) dryRun'
      (run access config progress store)
      (run access' { config with mode := mode, dryRun := dryRun' } progress other) := by
  rcases hwalked : access.walk store config.root with ⟨notes, walked⟩
  have hwalked' : access'.walk other config.root = (notes, walked) := hwalk.trans hwalked
  cases walked with
  | error e =>
      simp only [run, hwalked, hwalked']
      exact ⟨⟨[], hnone⟩, rfl, rfl⟩
  | ok entries =>
      have hfixed := fixAll_inLockstep progress hstep (.empty config.dryRun)
        (hentries notes entries hwalked)
      have hprogress := hfixed.progress
      simp only [run, hwalked, hwalked']
      refine ⟨hfixed.stores, hfixed.result, ?_⟩
      simp only [List.cons_append, List.filter_cons, List.filter_append, Event.isProgress,
        Bool.false_eq_true, if_false]
      exact congrArg (notes.filter Event.isProgress ++ ·) hprogress

/-- A summary tells whether its run was a dry one. -/
theorem result_map_marked (access : Access σ) (config : Config) (progress : Bool) (store : σ) :
    (run access config progress store).result.map (Summary.marked config.dryRun) =
      (run access config progress store).result := by
  cases hresult : (run access config progress store).result with
  | error failure => rfl
  | ok summary =>
      obtain ⟨-, -, done, -, -, -, rfl⟩ := exists_stretch_of_ok hresult
      simp [Except.map, Summary.marked, Summary.after_eq, Summary.empty]

end Dealias
