import Dealias.Proofs.Found

/-!
# When a walk succeeds

A walk asks of everything that it meets what it is.  So it succeeds if the root is a directory and
every name in every directory that it passes leads somewhere (`Accessible`), and only then
(`exists_walk_iff`).  Which directories it passes is said here without the walk: those that a row of
names leads to along directories only (`Passable`).  The leaves are the rows that go on from such a
directory to something else (`leaf_iff`).
-/

namespace Dealias.Disk

variable {disk : Disk} {here r : Location} {p root : Path} {depth : Depth} {name : Name}
  {names : List Name}

/-- The path leads to a directory. -/
def LeadsToDirectory (disk : Disk) (here : Location) (p : Path) : Prop :=
  ∃ l, disk.visit here p = .ok (l, .directory)

/-- The path leads to something that is no directory. -/
def LeadsElsewhere (disk : Disk) (here : Location) (p : Path) : Prop :=
  ∃ l node, disk.visit here p = .ok (l, node) ∧ node ≠ .directory

/-- From a path on, the names lead from directory to directory. -/
def Passable (disk : Disk) (here : Location) (p : Path) (names : List Name) : Prop :=
  ∀ front, front <+: names → disk.LeadsToDirectory here (p.below front)

/-- The path leads to a directory, and every name in it and in the directories below leads
somewhere. -/
structure Accessible (disk : Disk) (here : Location) (p : Path) : Prop where
  directory : disk.LeadsToDirectory here p
  leads : ∀ names l name, Passable disk here p names →
    disk.visit here (p.below names) = .ok (l, .directory) → name ∈ disk.children l →
    ∃ found, disk.visit here ((p.below names).child name.bytes) = .ok found

theorem passable_nil : Passable disk here p [] ↔ disk.LeadsToDirectory here p := by
  simp [Passable, Path.below]

/-- Names are passable from a directory that holds the first of them, if the others are passable
from there. -/
theorem passable_cons :
    Passable disk here p (name :: names) ↔
      disk.LeadsToDirectory here p ∧ Passable disk here (p.child name.bytes) names := by
  constructor
  · intro h
    refine ⟨h [] List.nil_prefix, fun front hfront => ?_⟩
    exact h (name :: front) (List.cons_prefix_cons.2 ⟨rfl, hfront⟩)
  · rintro ⟨hp, hbelow⟩ front hfront
    cases front with
    | nil => exact hp
    | cons first front =>
        obtain ⟨rfl, hrest⟩ := List.cons_prefix_cons.1 hfront
        exact hbelow front hrest

/-- Names are passable only from a directory. -/
theorem Passable.directory (h : Passable disk here p names) : disk.LeadsToDirectory here p :=
  h [] List.nil_prefix

/-- **The leaves of a directory are one name behind the directories below it.** -/
theorem leaf_iff (hp : disk.LeadsToDirectory here p) :
    Leaf disk here p names ↔
      ∃ front last, names = front ++ [last] ∧ Passable disk here p front ∧
        disk.LeadsElsewhere here (p.below names) := by
  constructor
  · intro h
    induction h with
    | @last p name l node hvisit hnode =>
        exact ⟨[], name, rfl, passable_nil.2 hp, l, node, hvisit, hnode⟩
    | @inside p name l names hvisit _ ih =>
        obtain ⟨front, last, rfl, hpass, hother⟩ := ih ⟨l, hvisit⟩
        exact ⟨name :: front, last, rfl, passable_cons.2 ⟨hp, hpass⟩, hother⟩
  · rintro ⟨front, last, rfl, hpass, l, node, hvisit, hnode⟩
    clear hp
    induction front generalizing p with
    | nil => exact .last hvisit hnode
    | cons first front ih =>
        obtain ⟨-, hbelow⟩ := passable_cons.1 hpass
        obtain ⟨m, hm⟩ := hbelow.directory
        exact .inside hm (ih hbelow hvisit)

/-! ## One directory -/

/-- The name leads somewhere from a path, and if to a directory, then everything below is
accessible. -/
def AccessibleAt (disk : Disk) (here : Location) (p : Path) (name : Name) : Prop :=
  ∃ found, disk.visit here (p.child name.bytes) = .ok found ∧
    (found.2 = .directory → disk.Accessible here (p.child name.bytes))

/-- **What is accessible is a directory all of whose names are.** -/
theorem accessible_iff :
    disk.Accessible here p ↔ ∃ r, disk.visit here p = .ok (r, .directory) ∧
      ∀ name ∈ disk.children r, disk.AccessibleAt here p name := by
  constructor
  · rintro ⟨⟨r, hp⟩, hleads⟩
    refine ⟨r, hp, fun name hname => ?_⟩
    obtain ⟨⟨l, node⟩, hfound⟩ := hleads [] r name (passable_nil.2 ⟨r, hp⟩) hp hname
    refine ⟨(l, node), hfound, ?_⟩
    rintro rfl
    refine ⟨⟨l, hfound⟩, fun names m last hpass hvisit hlast => ?_⟩
    exact hleads (name :: names) m last (passable_cons.2 ⟨⟨r, hp⟩, hpass⟩) hvisit hlast
  · rintro ⟨r, hp, hnames⟩
    refine ⟨⟨r, hp⟩, fun names l last hpass hvisit hlast => ?_⟩
    cases names with
    | nil =>
        rw [Path.below, hp] at hvisit
        cases hvisit
        obtain ⟨found, hfound, -⟩ := hnames last hlast
        exact ⟨found, hfound⟩
    | cons name names =>
        obtain ⟨-, hbelow⟩ := passable_cons.1 hpass
        obtain ⟨m, hm⟩ := hbelow.directory
        have hname : name ∈ disk.children r := mem_children.2 (isSome_of_visit_child hp hm)
        obtain ⟨found, hfound, haccess⟩ := hnames name hname
        rw [hm] at hfound
        cases hfound
        exact (haccess rfl).leads names l last hbelow hvisit hlast

/-! ## Walks -/

/-- **A crawl succeeds exactly when its directory is accessible.** -/
theorem exists_crawl_iff :
    (∃ entries, (disk.crawl here p depth).result = .ok entries) ↔ disk.Accessible here p := by
  refine crawl.induct disk here
    (fun p depth => (∃ entries, (disk.crawl here p depth).result = .ok entries) ↔
      disk.Accessible here p)
    (fun p depth names => (∃ entries, (disk.crawlNames here p depth names).result = .ok entries) ↔
      ∀ name ∈ names, disk.AccessibleAt here p name) ?_ ?_ ?_ ?_ ?_ p depth
  · intro p depth ih
    rw [accessible_iff]
    constructor
    · rintro ⟨entries, h⟩
      obtain ⟨r, hp, hnames⟩ := crawl_eq_ok_iff.1 h
      exact ⟨r, hp, (ih _).1 ⟨entries, hnames⟩⟩
    · rintro ⟨r, hp, hnames⟩
      obtain ⟨entries, h⟩ := (ih _).2 hnames
      exact ⟨entries, crawl_eq_ok_iff.2 ⟨r, hp, h⟩⟩
  · intro p depth
    simp [crawlNames, Walk.nothing]
  · intro p depth name names fault hvisit
    have hnot : ¬ disk.AccessibleAt here p name := by
      rintro ⟨found, hfound, -⟩
      rw [hvisit] at hfound
      cases hfound
    simp [crawlNames_of_error hvisit, Walk.failed, hnot]
  · intro p depth name names l hvisit ihBelow ihLater
    have hname : disk.AccessibleAt here p name ↔ disk.Accessible here (p.child name.bytes) := by
      constructor
      · rintro ⟨found, hfound, h⟩
        rw [hvisit] at hfound
        cases hfound
        exact h rfl
      · intro h
        exact ⟨_, hvisit, fun _ => h⟩
    simp only [crawlNames_of_directory hvisit, Walk.andThen_eq_ok_iff, List.forall_mem_cons, hname,
      ← ihBelow, ← ihLater]
    constructor
    · rintro ⟨_, mine, others, hmine, hothers, -⟩
      exact ⟨⟨mine, hmine⟩, others, hothers⟩
    · rintro ⟨⟨mine, hmine⟩, others, hothers⟩
      exact ⟨_, mine, others, hmine, hothers, rfl⟩
  · rintro p depth name names ⟨l, node⟩ hother hvisit ihLater
    have hnode : node ≠ .directory := fun hd => hother l (by rw [hd])
    have hname : disk.AccessibleAt here p name := ⟨_, hvisit, fun hd => absurd hd hnode⟩
    simp only [crawlNames_of_ne_directory hvisit hnode, Walk.found_eq_ok_iff, List.forall_mem_cons,
      hname, true_and, ← ihLater]
    constructor
    · rintro ⟨_, others, hothers, -⟩
      exact ⟨others, hothers⟩
    · rintro ⟨others, hothers⟩
      exact ⟨_, others, hothers, rfl⟩

/-- **A walk succeeds exactly when its root is accessible.** -/
theorem exists_walk_iff :
    (∃ entries, (disk.walk here root).result = .ok entries) ↔ disk.Accessible here root := by
  rw [walk_result, exists_crawl_iff]

end Dealias.Disk
