import Mathlib
import Dealias.Proofs.Accessible
import Dealias.Proofs.Components

/-!
# The order of a walk

What a walk returns, said by names: one entry for each row of names that leads along directories to
something else, at the path of these names below the root and with the number of directories on the
way as its depth.  The entries of all directories together stand in the order of their paths,
component by component, as every directory is listed in front of the names behind it.
-/

namespace Dealias.Disk

/-- **A walk lists everything below its root that is no directory**, each once, with its depth, and
in the order of the paths; it succeeds exactly if every name that it meets leads somewhere. -/
theorem walk_lists_in_order (disk : Disk) (here : Location) (root : Path) :
    ((∃ entries, (disk.walk here root).result = .ok entries) ↔ disk.Accessible here root) ∧
    ∀ entries, (disk.walk here root).result = .ok entries →
      ∃ rows : List (List Name), rows.Nodup ∧
        (∀ names, names ∈ rows ↔ ∃ directories last, names = directories ++ [last] ∧
          Passable disk here root directories ∧ disk.LeadsElsewhere here (root.below names)) ∧
        entries = rows.map (fun names => ⟨root.below names, ⟨names.length - 1⟩⟩) ∧
        (entries.map Entry.path).Pairwise Path.Precedes := by
  refine ⟨exists_walk_iff, fun entries h => ?_⟩
  have hroot : disk.LeadsToDirectory here root := (exists_walk_iff.1 ⟨entries, h⟩).directory
  obtain ⟨rows, hentries, hsorted, hmem⟩ := walk_finds h
  refine ⟨rows, nodup_of_pairwise_before hsorted, fun names => ?_, ?_, ?_⟩
  · rw [hmem, leaf_iff hroot]
  · simp [hentries, entryBelow, Depth.root]
  · have hpaths : entries.map Entry.path = rows.map root.below := by
      simp [hentries, entryBelow, Function.comp_def]
    rw [hpaths, List.pairwise_map]
    exact hsorted.imp (Path.precedes_below root)

/-- A directory whose name begins the names of two files, and a link to it. -/
def linkedDisk : Disk where
  nodes :=
    ⟨[(.ofPath (.ofText "/d"), .directory),
      (.ofPath (.ofText "/d/a.js"), .file 0),
      (.ofPath (.ofText "/d/a-b"), .file 1),
      (.ofPath (.ofText "/d/a"), .directory),
      (.ofPath (.ofText "/d/a/x.js"), .file 2),
      (.ofPath (.ofText "/d/l"), .link (.ofText "a"))],
      by decide⟩
  files :=
    ⟨[(0, ⟨[], 0o644, false⟩), (1, ⟨[], 0o644, false⟩), (2, ⟨[], 0o644, false⟩)], by decide⟩

/-- The entries of `linkedDisk`: what lies in the directory `a` stands in front of `a-b`, and the file
in it is met again through the link. -/
def linkedEntries : List Entry :=
  [⟨.ofText "d/a/x.js", ⟨1⟩⟩, ⟨.ofText "d/a-b", ⟨0⟩⟩, ⟨.ofText "d/a.js", ⟨0⟩⟩,
    ⟨.ofText "d/l/x.js", ⟨1⟩⟩]

/-- The walk lists what is in the directory and what is behind the link, each at its own path. -/
theorem walk_lists_linkedDisk :
    (linkedDisk.walk [] (.ofText "d")).result = .ok linkedEntries ∧
    ∃ rows : List (List Name), rows.Nodup ∧
      (∀ names, names ∈ rows ↔ ∃ directories last, names = directories ++ [last] ∧
        Passable linkedDisk [] (.ofText "d") directories ∧
        linkedDisk.LeadsElsewhere [] ((Path.ofText "d").below names)) ∧
      linkedEntries = rows.map (fun names => ⟨(Path.ofText "d").below names, ⟨names.length - 1⟩⟩) ∧
      (linkedEntries.map Entry.path).Pairwise Path.Precedes := by
  have hwalk : (linkedDisk.walk [] (.ofText "d")).result = .ok linkedEntries := by cbv
  exact ⟨hwalk, (walk_lists_in_order linkedDisk [] (.ofText "d")).2 linkedEntries hwalk⟩

end Dealias.Disk
