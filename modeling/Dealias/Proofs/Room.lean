import Dealias.Proofs.Replaced

/-!
# Room for a replacement

Replacing a file asks for more than reading it: the path is spelled out from the top, and a new file
is made beside the old one, under a free name.  If no limit on lengths stands in the way and such a
name is free (`HasRoom`), then a file that a path leads to is replaced without a fault
(`exists_replace`).

Room is a matter of shape and of the number of rows, and a replacement keeps both.  So it is left for
all that is replaced afterwards (`HasRoom.congr`).
-/

namespace Dealias.Disk

open Replace

variable {disk next : Disk} {here l : Location} {p : Path} {id : Nat} {node : Node}

/-- No limit on lengths stands in the way of replacing the file that a path leads to, and a name for
the new one is free. -/
structure HasRoom (disk : Disk) (here : Location) (p : Path) : Prop where
  /-- The path can be spelled out from the top. -/
  spelled : disk.resolve here .spell p ≠ .error (.system .nameTooLong)
  /-- So can the path of a new file beside the old one. -/
  beside : ∀ l ∈ disk.fileAt? here p, (tempPath here (.entry l)).bytes.length < pathLimit
  fresh : ∀ l ∈ disk.fileAt? here p, (freeName? disk l.dropLast).isSome

instance (found : Except Fault Place) (fault : Fault) : Decidable (found = .error fault) :=
  match found with
  | .ok _ => isFalse (by simp)
  | .error other => decidable_of_iff (other = fault) (by simp)

instance (disk : Disk) (here : Location) (p : Path) : Decidable (HasRoom disk here p) :=
  decidable_of_iff
    (disk.resolve here .spell p ≠ .error (.system .nameTooLong) ∧
      (∀ l ∈ disk.fileAt? here p, (tempPath here (.entry l)).bytes.length < pathLimit) ∧
      ∀ l ∈ disk.fileAt? here p, (freeName? disk l.dropLast).isSome)
    ⟨fun ⟨spelled, beside, fresh⟩ => ⟨spelled, beside, fresh⟩,
      fun ⟨spelled, beside, fresh⟩ => ⟨spelled, beside, fresh⟩⟩

/-! ## Replacing -/

/-- With room for it, the file that a path leads to is the one that is replaced. -/
theorem HasRoom.replaceTarget_eq (hroom : HasRoom disk here p)
    (h : disk.visit here p = .ok (l, node)) : disk.replaceTarget here p = .ok (.entry l) := by
  rcases resolve_spell_of_visit h with hsame | hlimit
  · rw [replaceTarget, hsame]
  · exact absurd hlimit hroom.spelled

/-- The new file is made in the directory of the old one. -/
theorem HasRoom.tempDirectory_eq (hroom : HasRoom disk here p)
    (h : disk.visit here p = .ok (l, .file id)) :
    disk.tempDirectory here (.entry l) = .ok l.dropLast := by
  have hshort := hroom.beside l (fileAt?_eq_some_iff.2 ⟨id, h⟩)
  have hne : l ≠ [] := by
    rintro rfl
    cases node?_of_visit h
  have hlimit : ¬ pathLimit ≤ (tempPath here (.entry l)).bytes.length := by omega
  unfold tempDirectory
  dsimp only
  rw [if_neg hlimit, if_neg hne]

/-- **With room for it, a file is replaced without a fault**, and its place is the only one whose node
is another. -/
theorem exists_replace (hroom : HasRoom disk here p) (h : disk.visit here p = .ok (l, .file id))
    (content : List UInt8) :
    ∃ next, replace calm disk here p content = ⟨next, none⟩ ∧
      Replaced disk l ⟨content, (disk.file id).mode, true⟩ next ∧
      next.nodes = disk.nodes.set l (.file disk.freshId) := by
  have hl := node?_of_visit h
  have hmode : disk.inheritedMode (.entry l) = some (disk.file id).mode := by
    simp [inheritedMode, hl]
  have hsome := hroom.fresh l (fileAt?_eq_some_iff.2 ⟨id, h⟩)
  obtain ⟨name, hname⟩ := Option.isSome_iff_exists.1 hsome
  obtain ⟨next, hfill, hreplaced, hnodes⟩ := fillAndRename_calm here content (disk.file id).mode hl
    (by simp) (node?_of_freeName hname)
  refine ⟨next, ?_, hreplaced, hnodes⟩
  simp only [replace, stage, calm, hroom.replaceTarget_eq h, hroom.tempDirectory_eq h, hname, hmode]
  rw [hfill]

/-! ## What is left -/

/-- Whether a temporary name is free depends on the places that are taken. -/
theorem freeName?_congr (hshape : SameShape disk next)
    (hrows : next.nodes.rows.length = disk.nodes.rows.length) (directory : Location) :
    freeName? next directory = freeName? disk directory := by
  have hfree : ∀ m, next.node? m = none ↔ disk.node? m = none := by
    intro m
    rw [← Option.map_eq_none_iff, hshape m, Option.map_eq_none_iff]
  simp only [freeName?, hrows, hfree]

/-- **Room is left** where the shape and the number of rows are kept. -/
theorem HasRoom.congr (hroom : HasRoom disk here p) (hshape : SameShape disk next)
    (hrows : next.nodes.rows.length = disk.nodes.rows.length) : HasRoom next here p := by
  have hplace : next.fileAt? here p = disk.fileAt? here p := fileAt?_of_sameShape hshape p
  refine ⟨?_, ?_, ?_⟩
  · intro hlimit
    have hresolve := resolve_of_sameShape hshape here .spell p
    rw [hlimit] at hresolve
    cases hdisk : disk.resolve here .spell p with
    | error fault =>
        rw [hdisk] at hresolve
        cases hresolve
        exact hroom.spelled hdisk
    | ok place =>
        rw [hdisk] at hresolve
        cases hresolve
  · rw [hplace]
    exact hroom.beside
  · rw [hplace]
    intro l hl
    rw [freeName?_congr hshape hrows]
    exact hroom.fresh l hl

end Dealias.Disk
