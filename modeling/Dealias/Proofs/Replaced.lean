import Dealias.Disk.Replace
import Dealias.Proofs.LaidOut
import Dealias.Proofs.Purposes
import Dealias.Proofs.Shape

/-!
# A file replaced in one step

The new file is made beside the old one and renamed onto it, so of the temporary name nothing is
left in the end: the only node that is another is that of the file (`replaced_of_visit`).  It refers
to a new number, and on a tree no other node does, so that what is seen differs only there
(`Replaced.look`).
-/

namespace Dealias.Disk

open Replace

variable {disk next : Disk} {here l m : Location} {p : Path} {id other : Nat}
  {content : List UInt8} {troubles : Troubles} {target : Target}

/-! ## New numbers -/

theorem lt_foldl_max {ids : List Nat} (start : Nat) (h : id ∈ ids ∨ id < start) :
    id < ids.foldl (fun n id => max n (id + 1)) start := by
  induction ids generalizing start with
  | nil => simpa using h
  | cons first ids ih =>
      refine ih _ ?_
      rcases h with hmem | hlt
      · rcases List.mem_cons.1 hmem with rfl | hrest
        · exact .inr (Nat.lt_of_lt_of_le (Nat.lt_succ_self id) (Nat.le_max_right ..))
        · exact .inl hrest
      · exact .inr (Nat.lt_of_lt_of_le hlt (Nat.le_max_left ..))

/-- The number of a new file is greater than all that are in use. -/
theorem lt_freshId (h : (disk.files.get? id).isSome) : id < disk.freshId :=
  lt_foldl_max 0 (.inl (Table.mem_keys.2 h))

/-- On a tree no file has the number of a new one. -/
theorem IsTree.ne_freshId (htree : IsTree disk) (h : disk.node? l = some (.file id)) :
    id ≠ disk.freshId :=
  Nat.ne_of_lt (lt_freshId (htree.numbered l id h))

/-! ## Nodes and files after the stages -/

/-- A node that is moved is at its new place, and nothing is left at the old one. -/
theorem node?_moveNode {temp : Location} {node : Node} (hm : m ≠ []) (htemp : temp ≠ []) :
    (disk.moveNode temp m node).node? l =
      if m = l then some node else if temp = l then none else disk.node? l := by
  unfold moveNode node?
  by_cases hl : l = []
  · simp [hl, hm, htemp]
  · simp [hl, Table.get?_set, Table.get?_erase]

theorem file_setFile {f : File} :
    (disk.setFile id f).file other = if id = other then f else disk.file other := by
  by_cases h : id = other <;> simp [setFile, file, Table.get?_set, h]

/-- A new file has taken the place of the one at a location. -/
structure Replaced (disk : Disk) (l : Location) (f : File) (next : Disk) : Prop where
  node? : ∀ m, next.node? m = if l = m then some (.file disk.freshId) else disk.node? m
  file : ∀ id, next.file id = if disk.freshId = id then f else disk.file id
  numbered : ∀ id, id = disk.freshId ∨ (disk.files.get? id).isSome → (next.files.get? id).isSome

/-! ## The stages -/

/-- A temporary name is free. -/
theorem node?_of_freeName {directory : Location} {name : Name}
    (h : freeName? disk directory = some name) : disk.node? (directory ++ [name]) = none := by
  obtain ⟨n, -, hn⟩ := List.exists_of_findSome?_eq_some h
  obtain ⟨-, hfree⟩ := Option.filter_eq_some_iff.1 hn
  simpa using hfree

/-- A file that is read at a path is the one that is replaced there, unless its spelling is too
long. -/
theorem replaceTarget_of_visit {node : Node} (h : disk.visit here p = .ok (l, node)) :
    disk.replaceTarget here p = .ok (.entry l) ∨
      disk.replaceTarget here p = .error (.system .nameTooLong) := by
  unfold replaceTarget
  rcases resolve_spell_of_visit h with hsame | hlimit
  · exact .inl (by rw [hsame])
  · right
    rw [hlimit]
    dsimp only
    split
    · rfl
    · rw [if_neg (by decide)]

/-- Filling the new file and renaming it puts it in the place of the old one, and of the temporary
name no row is left. -/
theorem fillAndRename_calm {temp : Location} (here : Location) (content : List UInt8) (mode : Nat)
    (hl : disk.node? l = some (.file id)) (htemp : temp ≠ []) (hfree : disk.node? temp = none) :
    ∃ next, fillAndRename calm here (.entry l) (some mode) content temp disk.freshId
        (disk.addFile temp ⟨[], tempMode, true⟩) = ⟨next, none⟩ ∧
      Replaced disk l ⟨content, mode, true⟩ next ∧
      next.nodes = disk.nodes.set l (.file disk.freshId) := by
  have hne : l ≠ [] := by
    rintro rfl
    cases hl
  have hother : temp ≠ l := by
    rintro rfl
    rw [hfree] at hl
    cases hl
  let made := disk.addFile temp ⟨[], tempMode, true⟩
  let filled := (made.writeFile disk.freshId content).setMode disk.freshId mode
  have hnodes : ∀ m, filled.node? m = if temp = m then some (.file disk.freshId) else disk.node? m :=
    fun m => node?_setNode htemp
  have hfiles : ∀ other, filled.file other =
      if disk.freshId = other then ⟨content, mode, true⟩ else disk.file other := by
    intro other
    have hmade : made.file other =
        if disk.freshId = other then ⟨[], tempMode, true⟩ else disk.file other := file_setFile
    by_cases h : disk.freshId = other <;> simp [filled, setMode, writeFile, file_setFile, h, hmade]
  have hrename : filled.renameLocation here (.entry l) = .ok l := by
    rw [renameLocation, if_neg hne, if_neg (by simp [hnodes, hother, hl])]
  refine ⟨filled.moveNode temp l (.file disk.freshId), ?_,
    ⟨fun m => ?_, hfiles, fun other h => ?_⟩, ?_⟩
  · simp only [fillAndRename, stage, stageAnyway, calm]
    rw [hrename]
  · rw [node?_moveNode hne htemp, hnodes]
    by_cases hm : temp = m
    · subst hm
      simp [hother.symm, hfree]
    · simp [hm]
  · change (Table.get? (Table.set (Table.set (Table.set disk.files _ _) _ _) _ _) other).isSome
    simp only [Table.get?_set]
    rcases h with rfl | hsome
    · simp
    · split <;> simp [hsome]
  · have hrow : disk.nodes.get? temp = none := by simpa [node?, htemp] using hfree
    change ((disk.nodes.set temp (.file disk.freshId)).erase temp).set l (.file disk.freshId) = _
    rw [Table.erase_set hrow]

/-- A stage that does not fail is passed, and the next one goes on. -/
theorem stage_ok {s : Replace.Stage} {later : Disk → Attempt}
    (h : (stage troubles s disk later).fault? = none) :
    troubles s = none ∧ (later disk).fault? = none ∧ stage troubles s disk later = later disk := by
  unfold stage at h ⊢
  cases hs : troubles s with
  | some fault => simp [hs] at h
  | none => exact ⟨rfl, by simpa [hs] using h, rfl⟩

/-- The stages after the new file has its permissions. -/
def syncAndRename (troubles : Troubles) (here : Location) (target : Target) (temp : Location)
    (id : Nat) (disk : Disk) : Attempt :=
  stageAnyway (troubles .sync) disk fun disk =>
  stage troubles .rename disk fun disk =>
  match disk.renameLocation here target with
  | .error fault => ⟨disk, some fault⟩
  | .ok l => ⟨disk.moveNode temp l (.file id), none⟩

/-- The stages after the new file has its content. -/
def permitAndRename (troubles : Troubles) (here : Location) (target : Target) (temp : Location)
    (id : Nat) : Option Nat → Disk → Attempt
  | none, disk => syncAndRename troubles here target temp id disk
  | some mode, disk => stage troubles .permit disk fun disk =>
      syncAndRename troubles here target temp id (disk.setMode id mode)

/-- The new file is written and flushed before it gets its mode and its name. -/
theorem fillAndRename_eq (mode : Option Nat) (temp : Location) :
    fillAndRename troubles here target mode content temp id disk =
      stage troubles .write disk fun disk =>
      stage troubles .flush (disk.writeFile id content) fun disk =>
      permitAndRename troubles here target temp id mode disk := by
  cases mode <;> rfl

/-- A renaming that succeeds was not struck and found its place, whatever became of the sync. -/
theorem syncAndRename_ok {temp : Location}
    (h : (syncAndRename troubles here target temp id disk).fault? = none) :
    troubles .rename = none ∧ (∃ place, disk.renameLocation here target = .ok place) ∧
      syncAndRename troubles here target temp id disk =
        syncAndRename calm here target temp id disk := by
  unfold syncAndRename stageAnyway at h ⊢
  obtain ⟨hrename, hplace, hgo⟩ := stage_ok h
  refine ⟨hrename, ?_, hgo⟩
  cases hfound : disk.renameLocation here target with
  | error fault => simp [hfound] at hplace
  | ok place => exact ⟨place, rfl⟩

/-- What a file holds does not matter to the renaming. -/
theorem renameLocation_setFile (f : File) :
    (disk.setFile id f).renameLocation here target = disk.renameLocation here target := by
  have hnodes : (disk.setFile id f).node? = disk.node? := rfl
  cases target with
  | entry l => simp only [renameLocation, hnodes]
  | fresh p => simp only [renameLocation, resolve_congr hnodes]

/-- Filling the new file and renaming it succeeds only if no fault strikes and there is a place for
it, and then it is as if none had been about. -/
theorem fillAndRename_ok {mode : Option Nat} {temp : Location}
    (h : (fillAndRename troubles here target mode content temp id disk).fault? = none) :
    troubles .write = none ∧ troubles .flush = none ∧ (mode ≠ none → troubles .permit = none) ∧
      troubles .rename = none ∧ (∃ place, disk.renameLocation here target = .ok place) ∧
      fillAndRename troubles here target mode content temp id disk =
        fillAndRename calm here target mode content temp id disk := by
  rw [fillAndRename_eq] at h
  obtain ⟨hwrite, h, hwritten⟩ := stage_ok h
  obtain ⟨hflush, h, hflushed⟩ := stage_ok h
  rw [fillAndRename_eq, fillAndRename_eq, hwritten, hflushed]
  cases mode with
  | none =>
      obtain ⟨hrename, hplace, hsame⟩ := syncAndRename_ok h
      rw [writeFile, renameLocation_setFile] at hplace
      exact ⟨hwrite, hflush, by simp, hrename, hplace, hsame⟩
  | some mode =>
      obtain ⟨hpermit, h, hpermitted⟩ := stage_ok h
      obtain ⟨hrename, hplace, hsame⟩ := syncAndRename_ok h
      rw [setMode, renameLocation_setFile, writeFile, renameLocation_setFile] at hplace
      exact ⟨hwrite, hflush, fun _ => hpermit, hrename, hplace, hpermitted.trans hsame⟩

/-- A replacement that succeeds has made the new file under a free name. -/
theorem exists_freeName_of_replace (hok : (replace troubles disk here p content).fault? = none) :
    troubles .resolve = none ∧ troubles .create = none ∧ ∃ target directory name,
      disk.replaceTarget here p = .ok target ∧ freeName? disk directory = some name ∧
      replace troubles disk here p content =
        fillAndRename troubles here target (disk.inheritedMode target) content (directory ++ [name])
          disk.freshId (disk.addFile (directory ++ [name]) ⟨[], tempMode, true⟩) := by
  unfold replace at hok ⊢
  obtain ⟨hresolve, hok, hgo⟩ := stage_ok hok
  rw [hgo]
  cases htarget : disk.replaceTarget here p with
  | error fault => simp [htarget] at hok
  | ok target =>
      simp only [htarget] at hok ⊢
      obtain ⟨hcreate, hok, hgo⟩ := stage_ok hok
      rw [hgo]
      refine ⟨hresolve, hcreate, target, ?_⟩
      cases hdirectory : disk.tempDirectory here target with
      | error fault => simp [hdirectory] at hok
      | ok directory =>
          cases hname : freeName? disk directory with
          | none => simp [hdirectory, hname] at hok
          | some name =>
              refine ⟨directory, name, rfl, hname, ?_⟩
              simp only [hdirectory, hname] at hok ⊢
              split
              · rfl
              · simp_all

/-- **Replacing a file gives its place to a new file**, with the permissions of the old one. -/
theorem replaced_of_target (htarget : disk.replaceTarget here p = .ok (.entry l))
    (hl : disk.node? l = some (.file id))
    (hok : (replace troubles disk here p content).fault? = none) :
    Replaced disk l ⟨content, (disk.file id).mode, true⟩
      (replace troubles disk here p content).disk := by
  obtain ⟨-, -, target, directory, name, hsame, hname, hreplace⟩ := exists_freeName_of_replace hok
  obtain rfl : target = .entry l := Except.ok.inj (hsame.symm.trans htarget)
  have hmode : disk.inheritedMode (.entry l) = some (disk.file id).mode := by
    simp [inheritedMode, hl]
  rw [hreplace] at hok ⊢
  obtain ⟨-, -, -, -, -, hcalm⟩ := fillAndRename_ok hok
  obtain ⟨next, hfill, hreplaced, -⟩ := fillAndRename_calm here content (disk.file id).mode hl
    (by simp) (node?_of_freeName hname)
  rw [hcalm, hmode, hfill]
  exact hreplaced

/-- It is the file that the path leads to. -/
theorem replaced_of_visit (h : disk.visit here p = .ok (l, .file id))
    (hok : (replace troubles disk here p content).fault? = none) :
    Replaced disk l ⟨content, (disk.file id).mode, true⟩
      (replace troubles disk here p content).disk := by
  rcases replaceTarget_of_visit h with htarget | hlimit
  · exact replaced_of_target htarget (node?_of_visit h) hok
  · obtain ⟨-, -, target, -, -, htarget, -⟩ := exists_freeName_of_replace hok
    rw [hlimit] at htarget
    cases htarget

/-! ## What a replacement keeps -/

namespace Replaced

variable {f : File}

/-- A replacement keeps the shape of a disk. -/
theorem sameShape (h : Replaced disk l f next) (hl : disk.node? l = some (.file id)) :
    SameShape disk next := by
  intro m
  rw [h.node?]
  split
  · rename_i hm
    simp [← hm, hl, Node.shape]
  · rfl

/-- A tree with a file replaced is a tree. -/
theorem isTree (h : Replaced disk l f next) (htree : IsTree disk)
    (hl : disk.node? l = some (.file id)) : IsTree next := by
  refine ⟨fun m name hsome => ?_, fun m other hm => ?_⟩
  · have hold : (disk.node? (m ++ [name])).isSome := by
      rw [h.node?] at hsome
      split at hsome
      · rename_i hlast
        simp [← hlast, hl]
      · exact hsome
    have hparent := htree.parent m name hold
    have hne : l ≠ m := by
      rintro rfl
      simp [hl] at hparent
    rw [h.node?, if_neg hne, hparent]
  · rw [h.node?] at hm
    split at hm
    · exact h.numbered other (.inl (by simpa using hm.symm))
    · exact h.numbered other (.inr (htree.numbered m other hm))

/-- **A replacement shows at its place only.** -/
theorem look (h : Replaced disk l f next) (htree : IsTree disk) (m : Location) :
    next.look m = if l = m then some (.file f.content f.mode f.written) else disk.look m := by
  unfold Disk.look
  rw [h.node?]
  split
  · simp [h.file]
  · cases hnode : disk.node? m with
    | none => rfl
    | some node =>
        cases node with
        | directory => rfl
        | link target => rfl
        | file other =>
            have hother : disk.freshId ≠ other := (htree.ne_freshId hnode).symm
            simp [h.file, hother]

end Replaced

end Dealias.Disk
