import Dealias.Proofs.Replaced

/-!
# All or nothing

Any stage of a replacement may be struck by a fault, or find that it cannot be done.  Up to the last
one nothing has changed but the new file, which has a name and a number of its own: what is written
to it, and which permissions it is given, does not matter once it is taken back
(`discard_addFile`, `discard_setFile`).  So wherever the work ends before its time, the disk is the
one from before, row by row.

If it does not, no fault has struck but at the stage that is passed over, and the disk is the one
that a replacement without any faults leaves (`replaced_of_target`).  So whatever happens, there is
the new file in the place of the old one, or nothing (`replace_all_or_nothing`).
-/

namespace Dealias.Disk

open Replace

variable {disk made : Disk} {here l temp : Location} {p : Path} {id : Nat} {node : Node}
  {content : List UInt8} {troubles : Troubles} {target : Target}

/-! ## Taking back -/

/-- Nothing that was done to a new file is left when it is taken back. -/
theorem discard_setFile (disk : Disk) (l : Location) (id : Nat) (f : File) :
    (disk.setFile id f).discard l id = disk.discard l id := by
  rw [discard, discard, setFile, Table.erase_set_eq]

/-- Without the new file the disk is the one from before. -/
theorem discard_addFile (hfree : disk.node? temp = none) (f : File) :
    (disk.addFile temp f).discard temp disk.freshId = disk := by
  have hne : temp ≠ [] := by
    rintro rfl
    cases hfree
  have hrow : disk.nodes.get? temp = none := by
    rwa [node?, if_neg hne] at hfree
  have hnumber : disk.files.get? disk.freshId = none := by
    by_contra hused
    exact Nat.lt_irrefl _ (lt_freshId (Option.isSome_iff_ne_none.2 hused))
  rw [addFile, discard, setNode, setFile, Table.erase_set hrow, Table.erase_set hnumber]

/-- If the attempt failed, the disk that it left is the given one once it is tidied up. -/
def Restores (tidy : Disk → Disk) (disk : Disk) (attempt : Attempt) : Prop :=
  attempt.fault? ≠ none → tidy attempt.disk = disk

namespace Restores

variable {tidy : Disk → Disk}

/-- To stop at a disk that can be tidied up restores it. -/
theorem failed {fault? : Option Fault} (hmade : tidy made = disk) :
    Restores tidy disk ⟨made, fault?⟩ :=
  fun _ => hmade

/-- A stage is struck at a disk that can be tidied up, or the stages behind it see to that. -/
theorem stage {s : Replace.Stage} {later : Disk → Attempt} (hmade : tidy made = disk)
    (hlater : Restores tidy disk (later made)) :
    Restores tidy disk (stage troubles s made later) := by
  unfold Disk.stage
  split
  · exact failed hmade
  · exact hlater

/-- If the renaming fails, the new file is discarded, whether or not it had reached the medium. -/
theorem syncAndRename (hmade : made.discard temp id = disk) :
    Restores (·.discard temp id) disk (syncAndRename troubles here target temp id made) := by
  unfold Disk.syncAndRename stageAnyway
  refine stage hmade ?_
  split
  · exact failed hmade
  · exact fun hfault => absurd rfl hfault

/-- **Once the new file is made**, it is all that has to be taken back. -/
theorem fillAndRename {mode : Option Nat} (hmade : made.discard temp id = disk) :
    Restores (·.discard temp id) disk
      (fillAndRename troubles here target mode content temp id made) := by
  have hwritten : (made.writeFile id content).discard temp id = disk := by
    rw [writeFile, discard_setFile, hmade]
  rw [fillAndRename_eq]
  refine stage hmade (stage hwritten ?_)
  cases mode with
  | none => exact syncAndRename hwritten
  | some mode =>
      have hpermitted : ((made.writeFile id content).setMode id mode).discard temp id = disk := by
        rw [setMode, discard_setFile, hwritten]
      unfold permitAndRename
      exact stage hwritten (syncAndRename hpermitted)

/-- **A replacement that fails has changed nothing.** -/
theorem replace : Restores (fun left => left) disk (replace troubles disk here p content) := by
  unfold Disk.replace
  refine stage rfl ?_
  dsimp only
  cases disk.replaceTarget here p with
  | error fault => exact failed rfl
  | ok target =>
      refine stage rfl ?_
      cases disk.tempDirectory here target with
      | error fault => exact failed rfl
      | ok directory =>
          dsimp only
          cases hname : freeName? disk directory with
          | none => exact failed rfl
          | some name =>
              have hmade := discard_addFile (node?_of_freeName hname) ⟨[], tempMode, true⟩
              dsimp only
              split
              · rename_i hdone
                exact fun hfault => absurd hdone hfault
              · rename_i fault hfault
                exact failed (fillAndRename hmade (by simp [hfault]))

end Restores

/-! ## What is replaced -/

/-- The path leads to a node through all links.  It is followed as it is given or, should it be too
long for that, spelled out. -/
def LeadsTo (disk : Disk) (here : Location) (p : Path) (l : Location) (node : Node) : Prop :=
  disk.visit here p = .ok (l, node) ∨ disk.resolve here .spell p = .ok (.found l node)

/-- On a tree a path leads to the node that stands at its location. -/
theorem LeadsTo.node?_eq (h : LeadsTo disk here p l node) (htree : IsTree disk)
    (hhere : disk.node? here = some .directory) : disk.node? l = some node := by
  rcases h with hvisit | hspell
  · unfold visit at hvisit
    split at hvisit
    · rename_i hfound
      obtain ⟨rfl, rfl⟩ := Prod.mk.inj (Except.ok.inj hvisit)
      exact resolve_stands htree hhere hfound
    · cases hvisit
    · cases hvisit
  · exact resolve_stands htree hhere hspell

/-- A path through all links does not end at one. -/
theorem Arrives.isLink_eq_false {links : Nat} {xs : List Step} {r : Location}
    (h : Arrives disk links l xs r node) : node.isLink = false := by
  induction h with
  | directory => rfl
  | file => rfl
  | go _ _ ih => exact ih
  | follow _ _ ih => exact ih

/-- Where a path leads in the end is no link, as links are followed. -/
theorem LeadsTo.isLink_eq_false (h : LeadsTo disk here p l node) : node.isLink = false := by
  rcases h with hvisit | hspell
  · exact (arrives_of_within (visit_eq_ok hvisit).2.2).isLink_eq_false
  · unfold resolve at hspell
    split at hspell
    · cases hspell
    · split at hspell
      · cases hspell
      · rw [if_neg (by simp)] at hspell
        have hwithin := eq_ok_of_mapError hspell
        rcases within_spell disk linkLimit (pathStart here p) (steps p) with hsame | hlimit
        · exact (arrives_of_within (hsame.symm.trans hwithin)).isLink_eq_false
        · cases hlimit.symm.trans hwithin

/-- What is replaced is what the path leads to. -/
theorem LeadsTo.target_eq (h : LeadsTo disk here p l node)
    (htarget : disk.replaceTarget here p = .ok target) : target = .entry l := by
  rcases h with hvisit | hspell
  · rcases replaceTarget_of_visit hvisit with hentry | hlimit
    · exact Except.ok.inj (htarget.symm.trans hentry)
    · cases hlimit.symm.trans htarget
  · rw [replaceTarget, hspell] at htarget
    exact (Except.ok.inj htarget).symm

/-- Something is replaced where the path leads, or the path is taken as it is given. -/
theorem replaceTarget_cases (htarget : disk.replaceTarget here p = .ok target) :
    (∃ l node, target = .entry l ∧ LeadsTo disk here p l node) ∨
      target = .fresh p ∧ ∃ fault, disk.inspect here p = .error fault := by
  unfold replaceTarget at htarget
  split at htarget
  · rename_i l node hfound
    exact .inl ⟨l, node, (Except.ok.inj htarget).symm, .inr hfound⟩
  · cases htarget
  · split at htarget
    · cases htarget
    · rename_i fault hnothing
      split at htarget
      · exact .inr ⟨(Except.ok.inj htarget).symm, fault, hnothing⟩
      · cases htarget

/-- A new file beside it does not turn a directory into something that could be renamed onto. -/
theorem renameLocation_directory (hl : disk.node? l = some .directory)
    (hfree : disk.node? temp = none) (f : File) (place : Location) :
    (disk.addFile temp f).renameLocation here (.entry l) ≠ .ok place := by
  have hother : temp ≠ l := by
    rintro rfl
    rw [hfree] at hl
    cases hl
  have hne : temp ≠ [] := by
    rintro rfl
    cases hfree
  have hnode : (disk.addFile temp f).node? l = some .directory := by
    rw [addFile, node?_setNode hne, if_neg hother]
    exact hl
  rw [renameLocation, hnode]
  split <;> simp

/-- A replacement that succeeds has passed each of its stages, and if it is led somewhere, it is led to a
file. -/
theorem replace_ok (htree : IsTree disk) (hhere : disk.node? here = some .directory)
    (h : (replace troubles disk here p content).fault? = none) :
    (∀ s, s ≠ .sync → s ≠ .permit → troubles s = none) ∧
      ∀ l node, LeadsTo disk here p l node → troubles .permit = none ∧ ∃ id, node = .file id := by
  obtain ⟨hresolve, hcreate, target, directory, name, htarget, hname, hreplace⟩ :=
    exists_freeName_of_replace h
  rw [hreplace] at h
  obtain ⟨hwrite, hflush, hpermit, hrename, ⟨place, hplace⟩, -⟩ := fillAndRename_ok h
  refine ⟨?_, ?_⟩
  · intro s hsync hpermission
    cases s with
    | resolve => exact hresolve
    | create => exact hcreate
    | write => exact hwrite
    | flush => exact hflush
    | permit => exact absurd rfl hpermission
    | sync => exact absurd rfl hsync
    | rename => exact hrename
  · intro l node hleads
    obtain rfl := hleads.target_eq htarget
    have hl := hleads.node?_eq htree hhere
    cases node with
    | directory => exact absurd hplace (renameLocation_directory hl (node?_of_freeName hname) _ place)
    | link other => cases hleads.isLink_eq_false
    | file id => exact ⟨hpermit (by simp [inheritedMode, hl]), id, rfl⟩

/-- A fault while the new file is brought to the medium makes no difference. -/
theorem replace_congr {others : Troubles} (h : ∀ s, s ≠ .sync → others s = troubles s) :
    replace others disk here p content = replace troubles disk here p content := by
  have hstage : ∀ (s : Replace.Stage) (made : Disk) (later : Disk → Attempt), s ≠ .sync →
      stage others s made later = stage troubles s made later := by
    intro s made later hs
    rw [stage, stage, h s hs]
  simp only [replace, fillAndRename, stageAnyway, hstage, ne_eq, reduceCtorEq, not_false_eq_true]

/-! ## All or nothing -/

/-- **A replacement is done in full or not at all.**  If it fails, the disk is the one from before.
It does fail if a stage is struck, unless it is the one that brings the new file to the medium, which
makes no difference.  It succeeds only where the path leads to a file, or where there is nothing, not
even a link.  Then the place of that file shows the new content with the old permissions, every
directory and every link is what it was, and all other places are seen as before. -/
theorem replace_all_or_nothing (troubles : Troubles) (disk : Disk) (here : Location) (p : Path)
    (content : List UInt8) (htree : IsTree disk) (hhere : disk.node? here = some .directory) :
    let attempt := replace troubles disk here p content
    (attempt.fault? ≠ none → attempt.disk = disk) ∧
      (∀ s fault, troubles s = some fault → s ≠ .sync →
        (s = .permit → ∃ l node, LeadsTo disk here p l node) → attempt.fault? ≠ none) ∧
      (∀ others : Troubles, (∀ s, s ≠ .sync → others s = troubles s) →
        replace others disk here p content = attempt) ∧
      (attempt.fault? = none →
        (∀ l node, LeadsTo disk here p l node → ∃ id, node = .file id) ∧
          ((∃ l node, LeadsTo disk here p l node) ∨
            ∃ fault, disk.inspect here p = .error fault)) ∧
      ∀ l id, LeadsTo disk here p l (.file id) → attempt.fault? = none →
        SameShape disk attempt.disk ∧
          ∀ m, attempt.disk.look m =
            if l = m then some (.file content (disk.file id).mode true) else disk.look m := by
  intro attempt
  refine ⟨Restores.replace, ?_, fun others => replace_congr, ?_, ?_⟩
  · intro s fault hstruck hsync hpermit hdone
    obtain ⟨hpassed, hled⟩ := replace_ok htree hhere hdone
    by_cases hs : s = .permit
    · obtain ⟨l, node, hleads⟩ := hpermit hs
      rw [hs, (hled l node hleads).1] at hstruck
      cases hstruck
    · rw [hpassed s hsync hs] at hstruck
      cases hstruck
  · intro hdone
    refine ⟨fun l node hleads => ((replace_ok htree hhere hdone).2 l node hleads).2, ?_⟩
    obtain ⟨-, -, target, -, -, htarget, -⟩ := exists_freeName_of_replace hdone
    rcases replaceTarget_cases htarget with ⟨l, node, -, hleads⟩ | ⟨-, hnothing⟩
    · exact .inl ⟨l, node, hleads⟩
    · exact .inr hnothing
  · intro l id hleads hdone
    have hl := hleads.node?_eq htree hhere
    obtain ⟨-, -, target, -, -, htarget, -⟩ := exists_freeName_of_replace hdone
    obtain rfl := hleads.target_eq htarget
    have hreplaced := replaced_of_target htarget hl hdone
    exact ⟨hreplaced.sameShape hl, hreplaced.look htree⟩

/-- The medium fails at one stage. -/
def brokenAt (stage : Replace.Stage) : Troubles :=
  fun s => if s = stage then some (.system .inputOutput) else none

/-- A file in a directory, and a link to it that a walk meets first. -/
def linkFirstDisk : Disk where
  nodes :=
    ⟨[(.ofPath (.ofText "/dist"), .directory),
      (.ofPath (.ofText "/dist/a.js"), .link (.ofText "sub/b.js")),
      (.ofPath (.ofText "/dist/sub"), .directory),
      (.ofPath (.ofText "/dist/sub/b.js"), .file 0)],
      by decide⟩
  files := .set .empty 0 ⟨Text.bytes "require(\"~/x\")", 0o644, false⟩

/-- The names of the file below the root of this disk. -/
def linkedNames : List Name := [⟨Text.bytes "sub", by decide⟩, ⟨Text.bytes "b.js", by decide⟩]

/-- The link in front stays a link when what it leads to is replaced, though the new file may not
have reached the medium.  If it is the renaming that fails, nothing is left of the new file. -/
theorem replace_all_or_nothing_linkFirst :
    let p := Path.ofText "dist/a.js"
    let place : Location := ⟨Text.bytes "dist", by decide⟩ :: linkedNames
    let done := replace (brokenAt .sync) linkFirstDisk [] p (Text.bytes "new")
    let failed := replace (brokenAt .rename) linkFirstDisk [] p (Text.bytes "new")
    done.fault? = none ∧ SameShape linkFirstDisk done.disk ∧
      (∀ m, done.disk.look m = if place = m then some (.file (Text.bytes "new") 0o644 true)
        else linkFirstDisk.look m) ∧
      failed.fault? ≠ none ∧ failed.disk = linkFirstDisk := by
  have htree : IsTree linkFirstDisk := isTree_of_rows (by decide)
  have hleads : LeadsTo linkFirstDisk [] (.ofText "dist/a.js")
      (⟨Text.bytes "dist", by decide⟩ :: linkedNames) (.file 0) := .inl (by decide +kernel)
  have hdone : (replace (brokenAt .sync) linkFirstDisk [] (.ofText "dist/a.js")
      (Text.bytes "new")).fault? = none := by
    decide +kernel
  obtain ⟨-, -, -, -, hplace⟩ := replace_all_or_nothing (brokenAt .sync) linkFirstDisk []
    (.ofText "dist/a.js") (Text.bytes "new") htree rfl
  obtain ⟨hnothing, hfails, -⟩ := replace_all_or_nothing (brokenAt .rename) linkFirstDisk []
    (.ofText "dist/a.js") (Text.bytes "new") htree rfl
  obtain ⟨hshape, hlook⟩ := hplace _ 0 hleads hdone
  have hfailed := hfails .rename (.system .inputOutput) rfl (by decide) (by simp)
  exact ⟨hdone, hshape, hlook, hfailed, hnothing hfailed⟩

end Dealias.Disk
