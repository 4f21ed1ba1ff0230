import Dealias.Program
import Dealias.Proofs.InPlace
import Dealias.Proofs.LaidOut
import Dealias.Proofs.Stretch

/-!
# A run over a tree

What a run in place does to a tree without links, from the walk to the summary.  The candidates are
the files whose path ends in the suffix; each of them is a `Target`, with its text as the literal
cuts it.  Handling a target changes it alone (`Target.exists_fixFile`), so along the run each is met
as it was in the beginning (`exists_stretch`), and what a walk finds gives the list of them
(`exists_targets`).
-/

namespace Dealias

open Disk (Name Location LinkFree Before entryBelow)
open Search (Cut)

/-- A candidate of a run over a tree: the names that lead to it from the root, its text with the
gaps between the references in it, and its permissions. -/
structure Target where
  names : List Name
  text : String
  gaps : List (List Char)
  mode : Nat

namespace Target

variable {target : Target} {pattern : Alias}

/-- How many directories lie between the root and the file. -/
def depth (target : Target) : Depth := ⟨target.names.length - 1⟩

/-- How many references the text holds. -/
def occurrences (target : Target) : Nat := target.gaps.length - 1

/-- The text with the way to the root in place of the marker of every reference. -/
def rewritten (pattern : Alias) (target : Target) : String :=
  String.ofList ((pattern.resolved target.depth).intercalate target.gaps)

/-- What becomes of the file. -/
def outcome (target : Target) : Outcome :=
  if target.occurrences = 0 then .unchanged else .rewritten target.occurrences

/-- The disk holds the text below the top, and the literal cuts it at these gaps. -/
structure Stands (pattern : Alias) (disk : Disk) (top : Location) (target : Target) : Prop where
  look : ∃ written, disk.look (top ++ target.names) =
    some (.file (Text.bytes target.text) target.mode written)
  cut : Cut pattern.literal.toList target.text.toList target.gaps

/-- The paths of the targets that hold a reference. -/
def changed (root : Path) (targets : List Target) : List Path :=
  (targets.filter fun target => 0 < target.occurrences).map fun target => root.below target.names

/-- What becomes of the targets, with their paths. -/
def account (root : Path) (targets : List Target) : Account :=
  targets.map fun target => (root.below target.names, target.outcome)

end Target

/-- From one disk to another, the targets that hold a reference were rewritten, and nothing else was
touched. -/
structure Rewritten (pattern : Alias) (top : Location) (targets : List Target)
    (disk final : Disk) : Prop where
  rewritten : ∀ target ∈ targets, 0 < target.occurrences →
    final.look (top ++ target.names) =
      some (.file (Text.bytes (target.rewritten pattern)) target.mode true)
  kept : ∀ l, (∀ target ∈ targets, 0 < target.occurrences → l ≠ top ++ target.names) →
    final.look l = disk.look l

variable {pattern : Alias} {disk : Disk} {here top : Location} {root : Path}
  {target : Target} {targets : List Target}

/-- **Handling a target rewrites it, if it holds a reference, and nothing else.** -/
theorem Target.exists_fixFile (htree : LinkFree disk here root top)
    (hstands : target.Stands pattern disk top) :
    ∃ next events, fixFile (Disk.access here .inPlace) pattern false disk
        (entryBelow root .root target.names) = ⟨events, .ok (next, target.outcome)⟩ ∧
      next.node? = disk.node? ∧ Rewritten pattern top [target] disk next := by
  obtain ⟨⟨written, hlook⟩, hcut⟩ := hstands
  have hread : (Disk.access here .inPlace).read disk (root.below target.names) =
      .ok target.text := by
    simp [Disk.access, htree.readText_below hlook, Except.mapError]
  have hpos := List.length_pos_iff.2 hcut.gaps_ne_nil
  have hrewrite : pattern.rewrite target.text (entryBelow root .root target.names).depth =
      if target.occurrences = 0 then .unchanged
      else .rewritten (target.rewritten pattern) target.occurrences := by
    have hdepth : (entryBelow root .root target.names).depth = target.depth := by
      simp [entryBelow, depth, Depth.root]
    rw [hdepth, Alias.rewrite_eq_of_cut hcut]
    refine if_congr ?_ rfl rfl
    unfold occurrences
    omega
  by_cases hnone : target.occurrences = 0
  · rw [if_pos hnone] at hrewrite
    rw [outcome, if_pos hnone]
    have hkept : Rewritten pattern top [target] disk disk := ⟨by simp [hnone], fun l _ => rfl⟩
    exact ⟨disk, _, (Handling.clean hread hrewrite).fixFile_eq, rfl, hkept⟩
  · rw [if_neg hnone] at hrewrite
    obtain ⟨next, hnext, hnodes, hthere, hkept⟩ :=
      htree.overwrite_below hlook (Text.bytes (target.rewritten pattern))
    have hwrite : (Disk.access here .inPlace).write disk (root.below target.names)
        (target.rewritten pattern) = .ok next := by
      simp [Disk.access, Disk.writeText, hnext, Except.mapError]
    have hfix := (Handling.written hread hrewrite rfl hwrite).fixFile_eq
    rw [outcome, if_neg hnone]
    refine ⟨next, _, hfix, hnodes, by simp [hthere], fun l hl => ?_⟩
    exact hkept l (hl target List.mem_cons_self (Nat.pos_of_ne_zero hnone))

/-- A target that was not touched stands where it stood. -/
theorem Target.Stands.of_look {next : Disk} (hstands : target.Stands pattern disk top)
    (hlook : next.look (top ++ target.names) = disk.look (top ++ target.names)) :
    target.Stands pattern next top := by
  obtain ⟨⟨written, hold⟩, hcut⟩ := hstands
  exact ⟨⟨written, hlook.trans hold⟩, hcut⟩

/-- A first target and others elsewhere are rewritten one after the other. -/
theorem Rewritten.cons {next final : Disk}
    (helsewhere : ∀ other ∈ targets, other.names ≠ target.names)
    (hfirst : Rewritten pattern top [target] disk next)
    (hothers : Rewritten pattern top targets next final) :
    Rewritten pattern top (target :: targets) disk final := by
  have hplace : ∀ other ∈ targets, top ++ other.names ≠ top ++ target.names :=
    fun other hother h => helsewhere other hother (List.append_cancel_left h)
  refine ⟨fun some hsome hoccurs => ?_, fun l hl => ?_⟩
  · rcases List.mem_cons.1 hsome with rfl | hlater
    · rw [hothers.kept _ fun other hother _ => (hplace other hother).symm]
      exact hfirst.rewritten _ List.mem_cons_self hoccurs
    · exact hothers.rewritten some hlater hoccurs
  · rw [hothers.kept l fun other hother => hl other (List.mem_cons_of_mem _ hother)]
    exact hfirst.kept l fun other hother => hl other (by simp_all)

/-- **A run over targets at different places succeeds and rewrites them.** -/
theorem exists_stretch (progress : Bool) (htree : LinkFree disk here root top)
    (hplaces : (targets.map Target.names).Nodup)
    (hstands : ∀ target ∈ targets, target.Stands pattern disk top) :
    ∃ final events, Stretch (Disk.access here .inPlace) pattern false progress disk
        (targets.map fun target => entryBelow root .root target.names) final
        (Target.account root targets) events ∧
      Rewritten pattern top targets disk final := by
  induction targets generalizing disk with
  | nil => exact ⟨disk, [], .nil disk, by simp, fun l _ => rfl⟩
  | cons target targets ih =>
      obtain ⟨hfresh, hplaces⟩ := List.nodup_cons.1 hplaces
      have helsewhere : ∀ other ∈ targets, other.names ≠ target.names :=
        fun other hother h => hfresh (h ▸ List.mem_map_of_mem hother)
      obtain ⟨next, events, hfix, hnodes, hfirst⟩ :=
        Target.exists_fixFile htree (hstands target List.mem_cons_self)
      have hstill : ∀ other ∈ targets, other.Stands pattern next top := by
        intro other hother
        refine (hstands other (List.mem_cons_of_mem _ hother)).of_look (hfirst.kept _ ?_)
        rintro first hmem - hsame
        obtain rfl := List.mem_singleton.1 hmem
        exact helsewhere other hother (List.append_cancel_left hsame)
      obtain ⟨final, later, hlater, hothers⟩ := ih (htree.congr hnodes) hplaces hstill
      exact ⟨final, _, .cons hfix hlater, hfirst.cons helsewhere hothers⟩

/-! ## The account of the targets -/

/-- The targets that hold references are those that are told as changed. -/
theorem Target.account_changed (root : Path) (targets : List Target) :
    (account root targets).changed = changed root targets := by
  have hmodified : ∀ target : Target,
      target.outcome.isModified = decide (0 < target.occurrences) := by
    intro target
    unfold outcome
    split <;> simp [Outcome.isModified, *, Nat.pos_iff_ne_zero]
  simp [account, changed, Account.changed, List.filter_map, Function.comp_def, hmodified]

theorem Target.account_occurrences (root : Path) (targets : List Target) :
    (account root targets).occurrences = (targets.map occurrences).sum := by
  have hcounted : ∀ target : Target, target.outcome.occurrences = target.occurrences := by
    intro target
    unfold outcome
    split <;> simp [Outcome.occurrences, *]
  simp [account, Account.occurrences, Function.comp_def, hcounted]

/-! ## All candidates of a tree -/

/-- A walk asks for no text to be put back. -/
theorem Disk.walk_writes (disk : Disk) (here : Location) (root : Path) :
    (disk.walk here root).events.filterMap Event.write? = [] := by
  refine List.filterMap_eq_nil_iff.2 fun e he => ?_
  have hnote := walk_notes disk here root e he
  cases e <;> simp_all [Event.isNote, Event.write?]

/-- A file of the tree whose path ends in the suffix. -/
def IsCandidate (suffix : Suffix) (root : Path) (disk : Disk) (top : Location)
    (names : List Name) : Prop :=
  (∃ content mode written, disk.look (top ++ names) = some (.file content mode written)) ∧
    suffix.accepts (root.below names) = true

/-- A list of values that are all taken is taken by a list. -/
theorem exists_map_eq {α β : Type} {f : β → α} {P : β → Prop} {xs : List α}
    (h : ∀ x ∈ xs, ∃ y, f y = x ∧ P y) :
    ∃ ys : List β, ys.map f = xs ∧ ∀ y ∈ ys, P y := by
  induction xs with
  | nil => exact ⟨[], rfl, by simp⟩
  | cons x xs ih =>
      obtain ⟨y, rfl, hy⟩ := h x List.mem_cons_self
      obtain ⟨ys, rfl, hys⟩ := ih fun x hx => h x (List.mem_cons_of_mem _ hx)
      refine ⟨y :: ys, rfl, fun z hz => ?_⟩
      rcases List.mem_cons.1 hz with rfl | hrest
      · exact hy
      · exact hys z hrest

/-- The candidates that a walk over the tree finds make a list of targets, if each holds a text. -/
theorem exists_targets (pattern : Alias) {suffix : Suffix} {entries : List Entry}
    (htree : LinkFree disk here root top)
    (htexts : ∀ names content mode written, suffix.accepts (root.below names) = true →
      disk.look (top ++ names) = some (.file content mode written) →
      ∃ text, content = Text.bytes text)
    (hwalk : (disk.walk here root).result = .ok entries) :
    ∃ targets : List Target,
      suffix.candidates entries =
        targets.map (fun target => entryBelow root .root target.names) ∧
      (targets.map Target.names).Pairwise Before ∧
      (∀ names, names ∈ targets.map Target.names ↔ IsCandidate suffix root disk top names) ∧
      ∀ target ∈ targets, target.Stands pattern disk top := by
  obtain ⟨found, rfl, hsorted, hmem⟩ := Disk.walk_finds hwalk
  have hrows : ∀ names, names ∈ found.filter (fun names => suffix.accepts (root.below names)) ↔
      IsCandidate suffix root disk top names := by
    intro names
    rw [List.mem_filter, hmem, htree.leaf_iff, IsCandidate, Disk.isFile_iff]
  obtain ⟨targets, hnames, hstands⟩ := exists_map_eq (f := Target.names)
    (P := fun target => target.Stands pattern disk top) fun names hn => by
      obtain ⟨⟨content, mode, written, hlook⟩, haccepts⟩ := (hrows names).1 hn
      obtain ⟨text, rfl⟩ := htexts names content mode written haccepts hlook
      obtain ⟨gaps, hcut⟩ := Search.exists_cut pattern.literal_toList_ne_nil text.toList
      exact ⟨⟨names, text, gaps, mode⟩, rfl, ⟨written, hlook⟩, hcut⟩
  refine ⟨targets, ?_, ?_, fun names => ?_, hstands⟩
  · have hcandidates : suffix.candidates (found.map (entryBelow root .root)) =
        (found.filter fun names => suffix.accepts (root.below names)).map
          (entryBelow root .root) := List.filter_map
    rw [hcandidates, ← hnames, List.map_map]
    rfl
  · rw [hnames]
    exact hsorted.filter _
  · rw [hnames, hrows]

/-- All that a run over a tree does, for the list of its candidates. -/
structure RunsOver (config : Config) (top : Location) (disk : Disk) (targets : List Target)
    (session : Program.Session) : Prop where
  complete : ∀ names, names ∈ targets.map Target.names ↔
    IsCandidate config.suffix config.root disk top names
  ordered : (targets.map Target.names).Pairwise Before
  stands : ∀ target ∈ targets, target.Stands config.pattern disk top
  result : session.result = .ok ⟨targets.length, Target.changed config.root targets,
    (targets.map Target.occurrences).sum, false⟩
  disk : Rewritten config.pattern top targets disk session.disk
  /-- The files that are opened for writing. -/
  writes : session.events.filterMap Event.write? = Target.changed config.root targets

/-- **A run over a tree without links rewrites its candidates**, if all of them hold texts: each
reference becomes the way to the root from the depth of its file, nothing else on the disk changes,
and the summary counts what was done in the order of the names. -/
theorem runConfig_rewrites_tree (here top : Location) (config : Config) (disk : Disk)
    (hmode : config.mode = .inPlace) (hdry : config.dryRun = false)
    (htree : LinkFree disk here config.root top)
    (htexts : ∀ names content mode written, config.suffix.accepts (config.root.below names) = true →
      disk.look (top ++ names) = some (.file content mode written) →
      ∃ text, content = Text.bytes text) :
    ∃ targets, RunsOver config top disk targets (Program.runConfig here config disk) := by
  obtain ⟨entries, hentries⟩ := htree.exists_walk
  obtain ⟨targets, hcandidates, hordered, hcomplete, hstands⟩ :=
    exists_targets config.pattern htree htexts hentries
  obtain ⟨final, events, h, hrewritten⟩ :=
    exists_stretch true htree (Disk.nodup_of_pairwise_before hordered) hstands
  have hwalk : (Disk.access here config.mode).walk disk config.root =
      ((disk.walk here config.root).events, .ok entries) := by
    simp [Disk.access, hentries]
  rw [← hcandidates, ← hmode, ← hdry] at h
  have hrun := (Ending.finished hwalk h).run_eq
  have hwrites := h.run_writes hwalk
  have hlength : (Target.account config.root targets).length = targets.length := List.length_map ..
  have hsummary : (Summary.empty config.dryRun).after (Target.account config.root targets) =
      ⟨targets.length, Target.changed config.root targets, (targets.map Target.occurrences).sum,
        false⟩ := by
    simp [Summary.after_eq, Summary.empty, Target.account_changed, Target.account_occurrences, hdry,
      hlength]
  refine ⟨targets, hcomplete, hordered, hstands, ?_, ?_, ?_⟩
  · rw [Program.runConfig, hrun, hsummary]
    rfl
  · rw [Program.runConfig, hrun]
    exact hrewritten
  · rw [Disk.walk_writes, hdry, Target.account_changed] at hwrites
    exact hwrites

/-- A directory with a file in it and another one a directory further down. -/
def sampleDisk : Disk where
  nodes :=
    ⟨[(.ofPath (.ofText "/d"), .directory),
      (.ofPath (.ofText "/d/a.js"), .file 0),
      (.ofPath (.ofText "/d/s"), .directory),
      (.ofPath (.ofText "/d/s/b.js"), .file 1)],
      by decide⟩
  files :=
    ⟨[(0, ⟨Text.bytes "require(\"~/x\")", 0o644, false⟩),
      (1, ⟨Text.bytes "require(\"~/y\");require(\"~/z\")", 0o600, false⟩)],
      by decide⟩

/-- The usual run over `sampleDisk`. -/
theorem runConfig_rewrites_sampleDisk :
    ∃ targets, RunsOver (.standard (.ofText "d")) [⟨Text.bytes "d", by decide⟩] sampleDisk targets
      (Program.runConfig [] (.standard (.ofText "d")) sampleDisk) := by
  refine runConfig_rewrites_tree _ _ _ _ rfl rfl
    (Disk.linkFree_of_rows rfl (by decide) (by decide)) ?_
  rintro names content mode written - hlook
  obtain ⟨id, hnode, hfile⟩ := Disk.look_eq_file_iff.1 hlook
  simp only [Disk.node?, sampleDisk, Table.get?, Table.lookup] at hnode
  have hid : id = 0 ∨ id = 1 := by grind
  rcases hid with rfl | rfl
  · exact ⟨"require(\"~/x\")", (congrArg Disk.File.content hfile).symm⟩
  · exact ⟨"require(\"~/y\");require(\"~/z\")", (congrArg Disk.File.content hfile).symm⟩

end Dealias
