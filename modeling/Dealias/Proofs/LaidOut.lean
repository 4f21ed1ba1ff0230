import Dealias.Disk.Archive
import Dealias.Proofs.Tree

/-!
# Disks that are laid out

On a disk that is a tree everything lies in directories, and every file that is referred to is there
(`IsTree`); links may lead anywhere.  The rows of a disk decide whether it is one (`isTree_of_rows`).

A new entry is only ever put where a path leads to a free name, and on a tree such a name is free
in a directory (`resolve_stands`).  So every disk that is laid out item by item is a tree, and with
it every disk that is handed over as bytes (`isTree_of_decode?`).
-/

namespace Dealias.Disk

variable {disk next final : Disk} {here l directory : Location} {p : Path} {name : Name}
  {node : Node} {place : Place} {xs : List Step} {links : Nat} {purpose : Purpose}

/-- The number of the file, if the node is one. -/
def Node.file? : Node → Option Nat
  | .file id => some id
  | .directory | .link _ => none

/-- What a disk holds lies in directories, and every file that is referred to is there. -/
structure IsTree (disk : Disk) : Prop where
  parent : ∀ l name, (disk.node? (l ++ [name])).isSome → disk.node? l = some .directory
  numbered : ∀ l id, disk.node? l = some (.file id) → (disk.files.get? id).isSome

/-- Whatever has something below it on a tree is a directory. -/
theorem IsTree.directory_of_isSome {rest : List Name} (htree : IsTree disk) (hne : rest ≠ [])
    (hsome : (disk.node? (l ++ rest)).isSome) : disk.node? l = some .directory :=
  Disk.directory_of_isSome [] htree.parent hne hsome

/-- What a row of a disk has to say for the disk to be a tree. -/
def IsTreeAt (disk : Disk) (l : Location) : Prop :=
  disk.node? l.dropLast = some .directory ∧
    ∀ id ∈ (disk.node? l).bind Node.file?, (disk.files.get? id).isSome

instance (disk : Disk) (l : Location) : Decidable (IsTreeAt disk l) := by
  unfold IsTreeAt
  infer_instance

/-- **The rows of a disk decide whether it is a tree.** -/
theorem isTree_of_rows (h : ∀ l ∈ disk.nodes.keys, IsTreeAt disk l) : IsTree disk := by
  have hrow : ∀ l, l ≠ [] → (disk.node? l).isSome → IsTreeAt disk l := by
    intro l hne hsome
    rw [node?, if_neg hne] at hsome
    exact h l (Table.mem_keys.2 hsome)
  refine ⟨fun l name hsome => ?_, fun l id hl => ?_⟩
  · simpa using (hrow _ (by simp) hsome).1
  · have hne : l ≠ [] := by
      rintro rfl
      cases hl
    exact (hrow l hne (Option.isSome_of_eq_some hl)).2 id (by simp [hl, Node.file?])

/-! ## Where paths lead -/

/-- The disk holds what the place tells. -/
def Place.Stands (disk : Disk) : Place → Prop
  | .found l node => disk.node? l = some node
  | .vacant directory name =>
    disk.node? directory = some .directory ∧ disk.node? (directory ++ [name]) = none
  | .slashed => True

/-- Above a directory of a tree there is a directory. -/
theorem IsTree.dropLast (htree : IsTree disk) (hl : disk.node? l = some .directory) :
    disk.node? l.dropLast = some .directory := by
  rcases List.eq_nil_or_concat l with rfl | ⟨front, name, rfl⟩
  · rfl
  · rw [List.concat_eq_append] at hl ⊢
    rw [List.dropLast_concat]
    exact htree.parent front name (Option.isSome_of_eq_some hl)

/-- Steps lead to what stands on the tree, if they do from every link that is met. -/
theorem along_stands {atLink : Location → List Step → Except Errno Place} (htree : IsTree disk)
    (hlink : ∀ m zs, disk.node? m = some .directory → atLink m zs = .ok place →
      place.Stands disk)
    (hl : disk.node? l = some .directory) (h : along disk purpose atLink l xs = .ok place) :
    place.Stands disk := by
  induction xs generalizing l with
  | nil =>
      obtain rfl := Except.ok.inj h
      exact hl
  | cons step rest ih =>
      cases step with
      | here => exact ih hl h
      | slash => exact ih hl h
      | up => exact ih (htree.dropLast hl) h
      | overlong length =>
          unfold along at h
          split at h
          · obtain rfl := Except.ok.inj h
            trivial
          · cases h
      | down name =>
          unfold along at h
          split at h
          · obtain rfl := Except.ok.inj h
            trivial
          · dsimp only at h
            split at h
            · cases h
            · split at h
              · rename_i hnone
                split at h
                · obtain rfl := Except.ok.inj h
                  exact ⟨hl, hnone⟩
                · cases h
              · exact ih ‹_› h
              · split at h
                · obtain rfl := Except.ok.inj h
                  assumption
                · cases h
              · split at h
                · obtain rfl := Except.ok.inj h
                  assumption
                · refine hlink _ _ ?_ h
                  split
                  · rfl
                  · exact hl

/-- Steps lead to what stands on the tree, through as many links as may be followed. -/
theorem within_stands (htree : IsTree disk) (hl : disk.node? l = some .directory)
    (h : within disk purpose links l xs = .ok place) : place.Stands disk := by
  induction links generalizing l xs with
  | zero => exact along_stands htree (fun m zs _ hlink => by cases hlink) hl h
  | succ links ih => exact along_stands htree (fun m zs hm hlink => ih hm hlink) hl h

/-- **On a tree a path leads to what stands there**, or to a free name in a directory. -/
theorem resolve_stands (htree : IsTree disk) (hhere : disk.node? here = some .directory)
    (h : disk.resolve here purpose p = .ok place) : place.Stands disk := by
  unfold resolve at h
  split at h
  · cases h
  · split at h
    · cases h
    · split at h
      · cases h
      · refine within_stands htree ?_ (eq_ok_of_mapError h)
        split
        · rfl
        · exact hhere

/-! ## New entries -/

/-- A node that is put somewhere is there, and all others are where they were. -/
theorem node?_setNode {m : Location} (hm : m ≠ []) :
    (disk.setNode m node).node? l = if m = l then some node else disk.node? l := by
  unfold setNode node?
  by_cases hl : l = []
  · simp [hl, hm]
  · simp [hl, Table.get?_set]

/-- From a tree another one has grown, with the directories and files of the first. -/
structure Grown (disk next : Disk) : Prop where
  isTree : IsTree next
  directory : ∀ l, disk.node? l = some .directory → next.node? l = some .directory
  files : ∀ id, (disk.files.get? id).isSome → (next.files.get? id).isSome

theorem Grown.refl (htree : IsTree disk) : Grown disk disk :=
  ⟨htree, fun _ h => h, fun _ h => h⟩

theorem Grown.trans (h : Grown disk next) (h' : Grown next final) : Grown disk final :=
  ⟨h'.isTree, fun l hl => h'.directory l (h.directory l hl), fun id hid => h'.files id (h.files id hid)⟩

/-- A node that is put under a free name. -/
theorem grown_setNode (htree : IsTree disk) (hstands : (Place.vacant directory name).Stands disk)
    (hnode : ∀ id ∈ node.file?, (disk.files.get? id).isSome) :
    Grown disk (disk.setNode (directory ++ [name]) node) := by
  obtain ⟨hdirectory, hfree⟩ := hstands
  have hnodes : ∀ l, (disk.setNode (directory ++ [name]) node).node? l =
      if directory ++ [name] = l then some node else disk.node? l :=
    fun l => node?_setNode (by simp)
  have hkept : ∀ l, disk.node? l = some .directory →
      (disk.setNode (directory ++ [name]) node).node? l = some .directory := by
    intro l hl
    have hne : directory ++ [name] ≠ l := by
      rintro rfl
      simp [hfree] at hl
    rw [hnodes, if_neg hne, hl]
  refine ⟨⟨fun l other hsome => ?_, fun l id hl => ?_⟩, hkept, fun id hid => hid⟩
  · rw [hnodes] at hsome
    split at hsome
    · rename_i hsame
      obtain ⟨rfl, -⟩ := List.append_inj' hsame rfl
      exact hkept _ hdirectory
    · exact hkept _ (htree.parent l other hsome)
  · rw [hnodes] at hl
    split at hl
    · obtain rfl := Option.some.inj hl
      exact hnode id rfl
    · exact htree.numbered l id hl

/-- A file with another content or other permissions, or a new one that no node refers to yet. -/
theorem grown_setFile (htree : IsTree disk) (id : Nat) (f : File) : Grown disk (disk.setFile id f) := by
  have hfiles : ∀ other, (disk.files.get? other).isSome →
      ((disk.setFile id f).files.get? other).isSome := by
    intro other hother
    rw [setFile, Table.get?_set]
    split
    · rfl
    · exact hother
  exact ⟨⟨htree.parent, fun l other hl => hfiles other (htree.numbered l other hl)⟩,
    fun l hl => hl, hfiles⟩

/-! ## Items -/

/-- A directory is made at a free name, or nothing changes. -/
theorem grown_makeDirectory (htree : IsTree disk) (hhere : disk.node? here = some .directory)
    (p : Path) : Grown disk (disk.makeDirectory here p) := by
  unfold makeDirectory
  split
  · rename_i hvacant
    exact grown_setNode htree (resolve_stands htree hhere hvacant) (by simp [Node.file?])
  · exact .refl htree

/-- Directories are made one after the other. -/
theorem grown_foldl_makeDirectory (htree : IsTree disk) (hhere : disk.node? here = some .directory)
    (paths : List Path) :
    Grown disk (paths.foldl (fun disk q => disk.makeDirectory here q) disk) := by
  induction paths generalizing disk with
  | nil => exact .refl htree
  | cons q paths ih =>
      have hfirst := grown_makeDirectory htree hhere q
      exact hfirst.trans (ih hfirst.isTree (hfirst.directory here hhere))

/-- A node is put behind directories that are made where they are missing. -/
theorem grown_putNode (htree : IsTree disk) (hhere : disk.node? here = some .directory)
    (hnode : ∀ id ∈ node.file?, (disk.files.get? id).isSome)
    (h : disk.putNode here p node = .ok next) : Grown disk next := by
  have hparents : Grown disk (disk.makeParents here p) := grown_foldl_makeDirectory htree hhere _
  unfold putNode at h
  dsimp only at h
  split at h
  · cases h
  · rename_i hvacant
    obtain rfl := Except.ok.inj h
    have hstands := resolve_stands hparents.isTree (hparents.directory here hhere) hvacant
    exact hparents.trans <|
      grown_setNode hparents.isTree hstands fun id hid => hparents.files id (hnode id hid)
  · cases h

/-- A content goes into the file that is there, or into a new one at a free name. -/
theorem grown_overwrite {content : List UInt8} (htree : IsTree disk)
    (hhere : disk.node? here = some .directory) (h : disk.overwrite here p content = .ok next) :
    Grown disk next := by
  unfold overwrite at h
  split at h
  · cases h
  · obtain rfl := Except.ok.inj h
    exact grown_setFile htree _ _
  · rename_i hvacant
    obtain rfl := Except.ok.inj h
    have hfile := grown_setFile htree disk.freshId ⟨content, newMode, true⟩
    have hstands := resolve_stands htree hhere hvacant
    refine hfile.trans (grown_setNode hfile.isTree hstands ?_)
    rintro id ⟨⟩
    simp [setFile, Table.get?_set]
  · cases h

/-- What follows a success is done with its result. -/
theorem exists_of_bind_eq_ok {ε α β : Type} {x : Except ε α} {f : α → Except ε β} {b : β}
    (h : x >>= f = .ok b) : ∃ a, x = .ok a ∧ f a = .ok b := by
  cases x with
  | error e => cases h
  | ok a => exact ⟨a, rfl, h⟩

/-- **An item lets a tree grow.** -/
theorem grown_put {item : Item} (htree : IsTree disk) (hhere : disk.node? here = some .directory)
    (h : disk.put here p item = .ok next) : Grown disk next := by
  cases item with
  | directory =>
      obtain rfl := Except.ok.inj h
      exact grown_foldl_makeDirectory htree hhere _
  | link target => exact grown_putNode htree hhere (by simp [Node.file?]) h
  | nameFor existing =>
      obtain ⟨⟨l, node⟩, hinspect, hput⟩ := exists_of_bind_eq_ok h
      refine grown_putNode htree hhere (fun id hid => ?_) hput
      unfold inspect at hinspect
      split at hinspect
      · rename_i place found hresolve
        obtain ⟨rfl, rfl⟩ : place = l ∧ found = node := by simpa using hinspect
        have hstands := resolve_stands htree hhere hresolve
        cases found with
        | file other =>
            obtain rfl := Option.some.inj hid
            exact htree.numbered _ _ hstands
        | directory => cases hid
        | link target => cases hid
      · cases hinspect
      · cases hinspect
  | file content mode =>
      have hparents : Grown disk (disk.makeParents here p) :=
        grown_foldl_makeDirectory htree hhere _
      obtain ⟨filled, hfilled, h⟩ := exists_of_bind_eq_ok h
      have hgrown := hparents.trans <|
        grown_overwrite hparents.isTree (hparents.directory here hhere) hfilled
      obtain ⟨⟨l, node⟩, -, h⟩ := exists_of_bind_eq_ok h
      cases node with
      | file id =>
          obtain rfl := Except.ok.inj h
          exact hgrown.trans (grown_setFile hgrown.isTree _ _)
      | directory =>
          obtain rfl := Except.ok.inj h
          exact hgrown
      | link target =>
          obtain rfl := Except.ok.inj h
          exact hgrown

/-- Items that are laid out one after the other let a tree grow. -/
theorem grown_putAll {items : List (Path × Item)} (htree : IsTree disk)
    (hhere : disk.node? here = some .directory) (h : disk.putAll here items = .ok next) :
    Grown disk next := by
  induction items generalizing disk with
  | nil =>
      obtain rfl := Except.ok.inj h
      exact .refl htree
  | cons first rest ih =>
      obtain ⟨middle, hfirst, hrest⟩ := exists_of_bind_eq_ok h
      have hgrown := grown_put htree hhere hfirst
      exact hgrown.trans (ih hgrown.isTree (hgrown.directory here hhere) hrest)

/-- **A disk that bytes describe is a tree.** -/
theorem isTree_of_decode? {bytes : List UInt8} (h : Archive.decode? bytes = some disk) :
    IsTree disk := by
  obtain ⟨items, -, hitems⟩ := Option.bind_eq_some_iff.1 h
  have hput : Disk.empty.putAll [] items = .ok disk := by
    cases hall : Disk.empty.putAll [] items with
    | error fault => simp [hall, Except.toOption] at hitems
    | ok laid => simpa [hall, Except.toOption] using hitems
  have hempty : IsTree Disk.empty := isTree_of_rows (by simp [Disk.empty, Table.keys, Table.empty])
  exact (grown_putAll hempty rfl hput).isTree

end Dealias.Disk
