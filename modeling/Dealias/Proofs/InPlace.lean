import Dealias.Disk.Overwrite
import Dealias.Proofs.Encoding
import Dealias.Proofs.Tree

/-!
# Overwriting in place

A file that is overwritten in place keeps its node, and where a path leads depends on the nodes
only.  So the paths lead where they led before (`resolve_congr`), and what is seen differs only
where the file has its place (`look_writeFile`).  A file of a tree without links has one place, so
there nothing else is touched (`LinkFree.overwrite_below`).
-/

namespace Dealias.Disk

variable {disk next : Disk} {here top l : Location} {root : Path} {names : List Name}

/-! ## Other content, same nodes -/

/-- Where steps lead depends on the nodes only. -/
theorem along_congr {purpose : Purpose} {atLink : Location → List Step → Except Errno Place}
    (hnodes : next.node? = disk.node?) (steps : List Step) :
    along next purpose atLink l steps = along disk purpose atLink l steps := by
  induction steps generalizing l with
  | nil => rfl
  | cons step rest ih =>
      cases step with
      | here => exact ih
      | slash => exact ih
      | up => exact ih
      | overlong => rfl
      | down name => simp only [along, hnodes, ih]

/-- Where steps lead through links depends on the nodes only. -/
theorem within_congr {purpose : Purpose} (hnodes : next.node? = disk.node?) (links : Nat) :
    within next purpose links = within disk purpose links := by
  induction links with
  | zero =>
      funext l steps
      exact along_congr hnodes steps
  | succ links ih =>
      funext l steps
      rw [within, ih]
      exact along_congr hnodes steps

theorem resolve_congr {purpose : Purpose} (hnodes : next.node? = disk.node?) (p : Path) :
    next.resolve here purpose p = disk.resolve here purpose p := by
  simp only [resolve, within_congr hnodes]

theorem visit_congr (hnodes : next.node? = disk.node?) (p : Path) :
    next.visit here p = disk.visit here p := by
  simp only [visit, resolve_congr hnodes]

/-- Whether a tree is free of links depends on the nodes only. -/
theorem LinkFree.congr (htree : LinkFree disk here root top) (hnodes : next.node? = disk.node?) :
    LinkFree next here root top := by
  obtain ⟨leads, top_directory, above, no_link, one_place, fits⟩ := htree
  rw [← hnodes] at top_directory above no_link one_place fits
  exact ⟨visit_congr hnodes root ▸ leads, top_directory, above, no_link, one_place, fits⟩

/-- A location looks like a file if the file that it refers to is like that. -/
theorem look_eq_file_iff {content : List UInt8} {mode : Nat} {written : Bool} :
    disk.look l = some (.file content mode written) ↔
      ∃ id, disk.node? l = some (.file id) ∧ disk.file id = ⟨content, mode, written⟩ := by
  cases hnode : disk.node? l with
  | none => simp [look, hnode]
  | some node =>
      cases node with
      | directory => simp [look, hnode]
      | link target => simp [look, hnode]
      | file id =>
          rcases hfile : disk.file id with ⟨content', mode', written'⟩
          simp [look, hnode, hfile]

/-- What looks like a file is one. -/
theorem isFile_iff :
    (∃ content mode written, disk.look l = some (.file content mode written)) ↔
      ∃ id, disk.node? l = some (.file id) := by
  constructor
  · rintro ⟨content, mode, written, hlook⟩
    obtain ⟨id, hnode, -⟩ := look_eq_file_iff.1 hlook
    exact ⟨id, hnode⟩
  · rintro ⟨id, hnode⟩
    exact ⟨_, _, _, look_eq_file_iff.2 ⟨id, hnode, rfl⟩⟩

/-- Overwriting a file shows wherever it has its place, and nowhere else. -/
theorem look_writeFile {id : Nat} {content : List UInt8} (l : Location) :
    (disk.writeFile id content).look l =
      if disk.node? l = some (.file id) then some (.file content (disk.file id).mode true)
      else disk.look l := by
  have hnodes : (disk.writeFile id content).node? l = disk.node? l := rfl
  have hfile : ∀ other, (disk.writeFile id content).file other =
      if id = other then { disk.file id with content := content, written := true }
      else disk.file other := by
    intro other
    by_cases h : id = other <;> simp [writeFile, setFile, file, Table.get?_set, h]
  rw [look, look, hnodes]
  cases hnode : disk.node? l with
  | none => simp
  | some node =>
      cases node with
      | directory => simp
      | link target => simp
      | file other =>
          by_cases h : id = other
          · subst h
            simp [hfile]
          · simp [hfile, h, Ne.symm h]

/-! ## A file of a tree -/

/-- In a tree without links a file is read at the path of its names. -/
theorem LinkFree.readText_below {text : String} {mode : Nat} {written : Bool}
    (htree : LinkFree disk here root top)
    (hlook : disk.look (top ++ names) = some (.file (Text.bytes text) mode written)) :
    disk.readText here (root.below names) = .ok text := by
  obtain ⟨id, hnode, hfile⟩ := look_eq_file_iff.1 hlook
  simp [readText, htree.visit_below hnode, hfile, Text.ofBytes?_bytes]

/-- **Overwriting a file of a tree changes what is seen at its place, and keeps the rest.** -/
theorem LinkFree.overwrite_below {old : List UInt8} {mode : Nat} {written : Bool}
    (htree : LinkFree disk here root top)
    (hlook : disk.look (top ++ names) = some (.file old mode written)) (content : List UInt8) :
    ∃ next, disk.overwrite here (root.below names) content = .ok next ∧ next.node? = disk.node? ∧
      next.look (top ++ names) = some (.file content mode true) ∧
      ∀ l, l ≠ top ++ names → next.look l = disk.look l := by
  obtain ⟨id, hnode, hfile⟩ := look_eq_file_iff.1 hlook
  have hresolve : disk.resolve here .create (root.below names) = _ :=
    htree.resolve_below hnode (by decide)
  refine ⟨disk.writeFile id content, ?_, rfl, ?_, fun l hl => ?_⟩
  · simp [overwrite, hresolve]
  · simp [look_writeFile, hnode, hfile]
  · rw [look_writeFile, if_neg fun hother => hl (htree.one_place names id l hnode hother)]

end Dealias.Disk
