import Dealias.Proofs.InPlace

/-!
# Disks of one shape

Two disks are of one shape if they have the same directories and links, and files at the same
places; which files these are does not matter.  A path leads to the same place on both
(`fileAt?_of_sameShape`).  So the places that the paths of a run lead to can be told beforehand, if
all that the run does to the disk is to put files in the place of files.
-/

namespace Dealias.Disk

/-- A node without the number of its file. -/
def Node.shape : Node → Node
  | .directory => .directory
  | .file _ => .file 0
  | .link target => .link target

/-- A place without the number of its file. -/
def Place.shape : Place → Place
  | .found l node => .found l node.shape
  | .vacant directory name => .vacant directory name
  | .slashed => .slashed

/-- The disks have nodes of one kind at each location. -/
def SameShape (disk next : Disk) : Prop :=
  ∀ l, (next.node? l).map Node.shape = (disk.node? l).map Node.shape

variable {disk next final : Disk} {here l m : Location} {p : Path} {id : Nat} {xs : List Step}

theorem SameShape.refl (disk : Disk) : SameShape disk disk := fun _ => rfl

theorem SameShape.trans (h : SameShape disk next) (h' : SameShape next final) :
    SameShape disk final :=
  fun l => (h' l).trans (h l)

/-- What stands at a location of one disk stands there on the other. -/
theorem SameShape.node?_cases (h : SameShape disk next) (l : Location) :
    (disk.node? l = none ∧ next.node? l = none) ∨
      (disk.node? l = some .directory ∧ next.node? l = some .directory) ∨
      (∃ id other, disk.node? l = some (.file id) ∧ next.node? l = some (.file other)) ∨
      ∃ target, disk.node? l = some (.link target) ∧ next.node? l = some (.link target) := by
  have hl := h l
  cases hdisk : disk.node? l with
  | none => simpa [hdisk] using hl
  | some node =>
      cases hnext : next.node? l with
      | none => simp [hdisk, hnext] at hl
      | some other =>
          rw [hdisk, hnext, Option.map_some, Option.map_some, Option.some_inj] at hl
          cases node <;> cases other <;> simp_all [Node.shape]

/-! ## Paths on both -/

/-- On disks of one shape steps lead to places of one shape, if they do from every link that is
met. -/
theorem along_of_sameShape {purpose : Purpose}
    {atDisk atNext : Location → List Step → Except Errno Place} (h : SameShape disk next)
    (hlink : ∀ m zs, (atNext m zs).map Place.shape = (atDisk m zs).map Place.shape) :
    (along next purpose atNext l xs).map Place.shape =
      (along disk purpose atDisk l xs).map Place.shape := by
  induction xs generalizing l with
  | nil => rfl
  | cons step rest ih =>
      cases step with
      | here => exact ih
      | slash => exact ih
      | up => exact ih
      | overlong => rfl
      | down name =>
          simp only [along]
          rcases h.node?_cases (l ++ [name]) with ⟨hdisk, hnext⟩ | ⟨hdisk, hnext⟩ |
              ⟨id, other, hdisk, hnext⟩ | ⟨target, hdisk, hnext⟩
          · rw [hdisk, hnext]
          · simp only [hdisk, hnext, apply_ite (Except.map Place.shape), ih]
          · simp only [hdisk, hnext, Option.any, Node.isLink, apply_ite (Except.map Place.shape)]
            rfl
          · simp only [hdisk, hnext, apply_ite (Except.map Place.shape), hlink]

/-- On disks of one shape steps lead to places of one shape, through as many links as may be
followed. -/
theorem within_of_sameShape (h : SameShape disk next) (purpose : Purpose) (links : Nat)
    (l : Location) (xs : List Step) :
    (within next purpose links l xs).map Place.shape =
      (within disk purpose links l xs).map Place.shape := by
  induction links generalizing l xs with
  | zero => exact along_of_sameShape h fun m zs => rfl
  | succ links ih => exact along_of_sameShape h ih

/-- On disks of one shape a path leads to places of one shape. -/
theorem resolve_of_sameShape (h : SameShape disk next) (here : Location) (purpose : Purpose)
    (p : Path) :
    (next.resolve here purpose p).map Place.shape =
      (disk.resolve here purpose p).map Place.shape := by
  have hwithin := within_of_sameShape h purpose linkLimit (if p.isAbsolute then [] else here)
    (steps p)
  unfold resolve
  split
  · rfl
  · split
    · rfl
    · split
      · rfl
      · revert hwithin
        cases within next purpose linkLimit _ (steps p) <;>
          cases within disk purpose linkLimit _ (steps p) <;>
          simp +contextual [Except.map, Except.mapError]

/-! ## The file at a path -/

/-- The location of the file that a path leads to. -/
def fileAt? (disk : Disk) (here : Location) (p : Path) : Option Location :=
  match disk.visit here p with
  | .ok (l, .file _) => some l
  | _ => none

/-- The place of a file is where its path leads. -/
theorem fileAt?_eq_some_iff :
    disk.fileAt? here p = some l ↔ ∃ id, disk.visit here p = .ok (l, .file id) := by
  unfold fileAt?
  split
  · rename_i m id hvisit
    simp [hvisit]
  · rename_i hother
    simp only [reduceCtorEq, false_iff, not_exists]
    exact fun id hvisit => hother l id hvisit

/-- **Paths lead to files at the same places on disks of one shape.** -/
theorem fileAt?_of_sameShape (h : SameShape disk next) (p : Path) :
    next.fileAt? here p = disk.fileAt? here p := by
  have hresolve := resolve_of_sameShape h here .visit p
  unfold fileAt? visit
  revert hresolve
  rcases next.resolve here .visit p with e | (⟨m, _ | _ | _⟩ | _ | _) <;>
    rcases disk.resolve here .visit p with e' | (⟨m', _ | _ | _⟩ | _ | _) <;>
    simp +contextual [Except.map, Place.shape, Node.shape]

end Dealias.Disk
