import Mathlib.Data.List.Nodup
import Dealias.Proofs.Leads
import Dealias.Run.OnDisk

/-!
# What a walk finds

A walk goes by paths: what it meets below a root are the rows of names along which every path leads
to a directory, but for the last, which leads to something else (`Leaf`).  A walk that succeeds
finds each of them once, with the number of directories on the way, and in the order of the names
one by one (`crawl_finds`).  This order is not the one of the paths' bytes, as a separator may stand
before or behind the bytes that a name goes on with.
-/

namespace Dealias

open Disk (Name)

/-- Is the event what a walk notes on its way? -/
def Event.isNote : Event → Bool
  | crawl _ _ => true
  | found _ _ => true
  | _ => false

/-- The path that some names lead along, one below the other. -/
def Path.below (p : Path) : List Name → Path
  | [] => p
  | name :: names => (p.child name.bytes).below names

namespace Disk

variable {disk : Disk} {here l r : Location} {p : Path} {depth : Depth} {name : Name}
  {names : List Name}

/-! ## The names in a directory -/

theorem Name.eq_of_bytes {a b : Name} (h : a.bytes = b.bytes) : a = b := by
  cases a; cases b; cases h; rfl

/-- A name is in a directory if something lies under it there. -/
theorem mem_children : name ∈ disk.children l ↔ (disk.node? (l ++ [name])).isSome := by
  have hne : l ++ [name] ≠ [] := by simp
  rw [node?, if_neg hne, ← Table.mem_keys, children, List.mem_mergeSort, List.mem_filterMap]
  constructor
  · rintro ⟨k, hk, hname⟩
    split at hname
    · rename_i hl
      obtain ⟨front, rfl⟩ := List.getLast?_eq_some_iff.1 hname
      rw [List.dropLast_concat] at hl
      exact hl ▸ hk
    · cases hname
  · intro hk
    exact ⟨l ++ [name], hk, by simp⟩

/-- **The names in a directory stand in the order of their bytes**, each of them once. -/
theorem children_pairwise (disk : Disk) (l : Location) :
    (disk.children l).Pairwise fun a b => a.bytes < b.bytes := by
  have hle : (disk.children l).Pairwise fun a b => Name.le a b = true := by
    apply List.pairwise_mergeSort
    · intro a b c hab hbc
      simp only [Name.le, decide_eq_true_eq] at *
      exact List.le_trans hab hbc
    · intro a b
      simpa [Name.le] using List.le_total a.bytes b.bytes
  have hnodup : (disk.children l).Nodup := by
    refine (List.mergeSort_perm _ _).nodup_iff.2 (disk.nodes.distinct.filterMap ?_)
    intro k k' name hk hk'
    simp only [Option.mem_def, Option.ite_none_right_eq_some] at hk hk'
    obtain ⟨front, rfl⟩ := List.getLast?_eq_some_iff.1 hk.2
    obtain ⟨front', rfl⟩ := List.getLast?_eq_some_iff.1 hk'.2
    simp_all
  refine (hle.and hnodup).imp fun {a b} h => ?_
  obtain ⟨hab, hne⟩ := h
  by_contra hlt
  exact hne (Name.eq_of_bytes (List.le_antisymm (by simpa [Name.le] using hab) hlt))

/-! ## Leaves -/

/-- The names lead along paths of directories to something that is no directory. -/
inductive Leaf (disk : Disk) (here : Location) : Path → List Name → Prop
  | last {p : Path} {name : Name} {l : Location} {node : Node}
      (hvisit : disk.visit here (p.child name.bytes) = .ok (l, node))
      (hnode : node ≠ .directory) : Leaf disk here p [name]
  | inside {p : Path} {name : Name} {l : Location} {names : List Name}
      (hvisit : disk.visit here (p.child name.bytes) = .ok (l, .directory))
      (tail : Leaf disk here (p.child name.bytes) names) : Leaf disk here p (name :: names)

theorem Leaf.ne_nil (h : Leaf disk here p names) : names ≠ [] := by
  cases h <;> simp

/-- A leaf below a directory begins with a name in it. -/
theorem Leaf.head_mem_children (h : Leaf disk here p (name :: names))
    (hp : disk.visit here p = .ok (r, .directory)) : name ∈ disk.children r := by
  cases h with
  | last hvisit => exact mem_children.2 (isSome_of_visit_child hp hvisit)
  | inside hvisit => exact mem_children.2 (isSome_of_visit_child hp hvisit)

/-- Behind a name that leads to a directory stand the leaves below it. -/
theorem leaf_cons_iff_of_directory
    (hvisit : disk.visit here (p.child name.bytes) = .ok (l, .directory)) :
    Leaf disk here p (name :: names) ↔ Leaf disk here (p.child name.bytes) names := by
  constructor
  · intro h
    cases h with
    | last hlast hnode =>
        rw [hvisit] at hlast
        cases hlast
        exact absurd rfl hnode
    | inside _ tail => exact tail
  · exact .inside hvisit

/-- A name that leads to something else is a leaf alone. -/
theorem leaf_cons_iff_of_ne_directory {node : Node}
    (hvisit : disk.visit here (p.child name.bytes) = .ok (l, node)) (hnode : node ≠ .directory) :
    Leaf disk here p (name :: names) ↔ names = [] := by
  constructor
  · intro h
    cases h with
    | last => rfl
    | inside hbelow =>
        rw [hvisit] at hbelow
        cases hbelow
        exact absurd rfl hnode
  · rintro rfl
    exact .last hvisit hnode

/-! ## What is found -/

/-- Rows of names in the order of the first names that differ. -/
abbrev Before : List Name → List Name → Prop :=
  List.Lex fun a b => a.bytes < b.bytes

/-- No row stands before itself. -/
theorem Before.ne {row other : List Name} (h : Before row other) : row ≠ other := by
  induction h with
  | nil => simp
  | cons _ ih => simpa using ih
  | rel hlt =>
      rintro h
      obtain rfl := (List.cons.inj h).1
      exact List.lt_irrefl _ hlt

/-- Rows that stand in order are all different. -/
theorem nodup_of_pairwise_before {rows : List (List Name)} (h : rows.Pairwise Before) :
    rows.Nodup :=
  h.imp Before.ne

/-- The entry that some names below a path make, where the files of the path itself lie at the
given depth. -/
def entryBelow (p : Path) (depth : Depth) (names : List Name) : Entry :=
  ⟨p.below names, ⟨depth.levels + (names.length - 1)⟩⟩

/-- The entries are those of the rows of names in question, each once and in order. -/
def Finds (p : Path) (depth : Depth) (inQuestion : List Name → Prop) (entries : List Entry) :
    Prop :=
  ∃ found : List (List Name), entries = found.map (entryBelow p depth) ∧
    found.Pairwise Before ∧ ∀ names, names ∈ found ↔ inQuestion names

/-- One directory further down, a name less leads to an entry. -/
theorem entryBelow_child (hne : names ≠ []) :
    entryBelow (p.child name.bytes) depth.descend names = entryBelow p depth (name :: names) := by
  have := List.length_pos_iff.2 hne
  simp only [entryBelow, Path.below, Depth.descend, List.length_cons, Entry.mk.injEq,
    Depth.mk.injEq, true_and]
  omega

/-- The leaves that begin with one of some names. -/
def LeafAmong (disk : Disk) (here : Location) (p : Path) (names : List Name) (row : List Name) :
    Prop :=
  Leaf disk here p row ∧ ∃ name ∈ names, row.head? = some name

/-- A leaf that begins with one of some names begins with the first or with one of the others. -/
theorem leafAmong_cons_iff {row : List Name} :
    LeafAmong disk here p (name :: names) row ↔
      (∃ rest, row = name :: rest ∧ Leaf disk here p (name :: rest)) ∨
        LeafAmong disk here p names row := by
  cases row with
  | nil => simp [LeafAmong]
  | cons first rest =>
      simp only [LeafAmong, List.head?_cons, Option.some.injEq, List.mem_cons, List.cons.injEq]
      grind

/-- What is found below a name comes in front of what is found below the names behind it. -/
theorem Finds.cons {rests : List (List Name)} {others : List Entry}
    (hsorted : ∀ later ∈ names, name.bytes < later.bytes) (hrests : rests.Pairwise Before)
    (hleaf : ∀ rest, rest ∈ rests ↔ Leaf disk here p (name :: rest))
    (hothers : Finds p depth (LeafAmong disk here p names) others) :
    Finds p depth (LeafAmong disk here p (name :: names))
      (rests.map (fun rest => entryBelow p depth (name :: rest)) ++ others) := by
  obtain ⟨later, rfl, hlater, hmem⟩ := hothers
  refine ⟨rests.map (name :: ·) ++ later, by simp, ?_, fun row => ?_⟩
  · refine List.pairwise_append.2 ⟨List.pairwise_map.2 (hrests.imp .cons), hlater, ?_⟩
    intro row hrow row' hrow'
    obtain ⟨rest, -, rfl⟩ := List.mem_map.1 hrow
    obtain ⟨-, first, hfirst, hhead⟩ := (hmem row').1 hrow'
    obtain ⟨rest', rfl⟩ := List.head?_eq_some_iff.1 hhead
    exact .rel (hsorted first hfirst)
  · rw [leafAmong_cons_iff, List.mem_append, List.mem_map, hmem]
    grind

/-! ## Walks that succeed -/

/-- One walk and then another succeed together if both do. -/
theorem Walk.andThen_eq_ok_iff {first : Walk} {later : Unit → Walk} {entries : List Entry} :
    (first.andThen later).result = .ok entries ↔
      ∃ mine others, first.result = .ok mine ∧ (later ()).result = .ok others ∧
        entries = mine ++ others := by
  cases hfirst : first.result with
  | error e => simp [andThen, hfirst]
  | ok mine =>
      cases hlater : (later ()).result with
      | error e => simp [andThen, hfirst, hlater, Except.map]
      | ok others => simp [andThen, hfirst, hlater, Except.map, eq_comm]

/-- A walk that found an entry succeeds if the walk behind it does. -/
theorem Walk.found_eq_ok_iff {entry : Entry} {later : Walk} {entries : List Entry} :
    (Walk.found entry later).result = .ok entries ↔
      ∃ others, later.result = .ok others ∧ entries = entry :: others := by
  cases hlater : later.result with
  | error e => simp [Walk.found, hlater, Except.map]
  | ok others => simp [Walk.found, hlater, Except.map, eq_comm]

/-- What can be listed is a directory, with the names in it. -/
theorem list_eq_ok (h : disk.list here p = .ok names) :
    ∃ r, disk.visit here p = .ok (r, .directory) ∧ names = disk.children r := by
  unfold list at h
  split at h
  · cases h
  · exact ⟨_, ‹_›, (Except.ok.inj h).symm⟩
  · cases h

/-- A crawl succeeds if the path leads to a directory and the crawl of the names in it succeeds. -/
theorem crawl_eq_ok_iff {entries : List Entry} :
    (disk.crawl here p depth).result = .ok entries ↔
      ∃ r, disk.visit here p = .ok (r, .directory) ∧
        (disk.crawlNames here p depth (disk.children r)).result = .ok entries := by
  rw [crawl]
  constructor
  · intro h
    cases hlist : disk.list here p with
    | error fault => simp [hlist, Walk.note, Walk.failed] at h
    | ok names =>
        obtain ⟨r, hp, rfl⟩ := list_eq_ok hlist
        exact ⟨r, hp, by simpa [hlist, Walk.note] using h⟩
  · rintro ⟨r, hp, h⟩
    simpa [list, hp, Walk.note] using h

/-- A name that leads nowhere ends the crawl. -/
theorem crawlNames_of_error {fault : Fault}
    (hvisit : disk.visit here (p.child name.bytes) = .error fault) :
    disk.crawlNames here p depth (name :: names) = .failed (p.child name.bytes) fault := by
  rw [crawlNames]
  split <;> simp_all

/-- A name that leads to a directory is crawled before the names behind it. -/
theorem crawlNames_of_directory
    (hvisit : disk.visit here (p.child name.bytes) = .ok (l, .directory)) :
    disk.crawlNames here p depth (name :: names) =
      (disk.crawl here (p.child name.bytes) depth.descend).andThen fun _ =>
        disk.crawlNames here p depth names := by
  rw [crawlNames]
  split <;> simp_all

/-- A name that leads to something else is an entry. -/
theorem crawlNames_of_ne_directory {node : Node}
    (hvisit : disk.visit here (p.child name.bytes) = .ok (l, node)) (hnode : node ≠ .directory) :
    disk.crawlNames here p depth (name :: names) =
      .found ⟨p.child name.bytes, depth⟩ (disk.crawlNames here p depth names) := by
  rw [crawlNames]
  split <;> simp_all

/-- **A crawl that succeeds finds the leaves below its path.** -/
theorem crawl_finds {entries : List Entry} (h : (disk.crawl here p depth).result = .ok entries) :
    Finds p depth (Leaf disk here p) entries := by
  refine crawl.induct disk here
    (fun p depth => ∀ entries, (disk.crawl here p depth).result = .ok entries →
      Finds p depth (Leaf disk here p) entries)
    (fun p depth names => ∀ entries, names.Pairwise (fun a b => a.bytes < b.bytes) →
      (disk.crawlNames here p depth names).result = .ok entries →
      Finds p depth (LeafAmong disk here p names) entries) ?_ ?_ ?_ ?_ ?_ p depth entries h
  · intro p depth ih entries h
    obtain ⟨r, hp, hcrawl⟩ := crawl_eq_ok_iff.1 h
    obtain ⟨found, hentries, hsorted, hmem⟩ := ih _ _ (children_pairwise disk r) hcrawl
    refine ⟨found, hentries, hsorted, fun row => (hmem row).trans ⟨And.left, fun hleaf => ?_⟩⟩
    obtain ⟨first, rest, rfl⟩ := List.exists_cons_of_ne_nil hleaf.ne_nil
    exact ⟨hleaf, first, hleaf.head_mem_children hp, rfl⟩
  · rintro p depth entries - h
    rw [crawlNames, Walk.nothing] at h
    obtain rfl := Except.ok.inj h
    exact ⟨[], rfl, .nil, by simp [LeafAmong]⟩
  · rintro p depth name names fault hvisit entries - h
    rw [crawlNames_of_error hvisit] at h
    cases h
  · intro p depth name names l hvisit ihBelow ihLater entries hsorted h
    obtain ⟨hfirst, hrest⟩ := List.pairwise_cons.1 hsorted
    rw [crawlNames_of_directory hvisit] at h
    obtain ⟨mine, others, hmine, hothers, rfl⟩ := Walk.andThen_eq_ok_iff.1 h
    obtain ⟨found, rfl, hfound, hmem⟩ := ihBelow mine hmine
    have hentries : found.map (entryBelow (p.child name.bytes) depth.descend) =
        found.map fun rest => entryBelow p depth (name :: rest) :=
      List.map_congr_left fun rest hr => entryBelow_child ((hmem rest).1 hr).ne_nil
    rw [hentries]
    refine Finds.cons hfirst hfound (fun rest => ?_) (ihLater others hrest hothers)
    rw [hmem, leaf_cons_iff_of_directory hvisit]
  · rintro p depth name names ⟨l, node⟩ hother hvisit ihLater entries hsorted h
    obtain ⟨hfirst, hrest⟩ := List.pairwise_cons.1 hsorted
    have hnode : node ≠ .directory := fun hd => hother l (by rw [hd])
    rw [crawlNames_of_ne_directory hvisit hnode] at h
    obtain ⟨others, hothers, rfl⟩ := Walk.found_eq_ok_iff.1 h
    have hsingle : ([[]] : List (List Name)).Pairwise Before := List.pairwise_singleton ..
    refine Finds.cons hfirst hsingle (fun rest => ?_) (ihLater others hrest hothers)
    rw [List.mem_singleton, leaf_cons_iff_of_ne_directory hvisit hnode]

/-- A walk gives what the crawl of its root gives. -/
theorem walk_result (disk : Disk) (here : Location) (root : Path) :
    (disk.walk here root).result = (disk.crawl here root .root).result := by
  unfold walk
  cases h : (disk.crawl here root .root).result <;> simp [h]

/-- A run on a disk begins with its walk. -/
theorem access_walk (mode : WriteMode) {root : Path} {result : Except SystemError (List Entry)}
    (h : (disk.walk here root).result = result) :
    (access here mode).walk disk root = ((disk.walk here root).events, result) :=
  Prod.ext rfl h

/-- **A walk that succeeds finds the leaves below its root**, those in the root itself at depth
zero. -/
theorem walk_finds {root : Path} {entries : List Entry}
    (h : (disk.walk here root).result = .ok entries) :
    Finds root .root (Leaf disk here root) entries :=
  crawl_finds (walk_result disk here root ▸ h)

/-! ## What a walk notes -/

/-- A crawl makes no request. -/
theorem crawl_notes (disk : Disk) (here : Location) (p : Path) (depth : Depth) :
    ∀ e ∈ (disk.crawl here p depth).events, e.isNote = true := by
  refine crawl.induct disk here
    (fun p depth => ∀ e ∈ (disk.crawl here p depth).events, e.isNote = true)
    (fun p depth names => ∀ e ∈ (disk.crawlNames here p depth names).events, e.isNote = true)
    ?_ ?_ ?_ ?_ ?_ p depth
  · intro p depth ih
    rw [crawl]
    cases disk.list here p with
    | error fault => simp [Walk.note, Walk.failed, Event.isNote]
    | ok names => exact List.forall_mem_cons.2 ⟨rfl, ih names⟩
  · intro p depth
    simp [crawlNames, Walk.nothing]
  · intro p depth name names fault hvisit
    simp [crawlNames_of_error hvisit, Walk.failed]
  · intro p depth name names l hvisit ihBelow ihLater
    rw [crawlNames_of_directory hvisit, Walk.andThen]
    split
    · exact ihBelow
    · exact List.forall_mem_append.2 ⟨ihBelow, ihLater⟩
  · intro p depth name names found hother hvisit ihLater
    have hnode : found.2 ≠ .directory := fun hd => hother found.1 (by rw [← hd])
    rw [crawlNames_of_ne_directory hvisit hnode]
    exact ihLater

/-- All that happens on a walk are notes. -/
theorem walk_notes (disk : Disk) (here : Location) (root : Path) :
    ∀ e ∈ (disk.walk here root).events, e.isNote = true := by
  have hcrawl := crawl_notes disk here root .root
  unfold walk
  dsimp only
  split
  · exact hcrawl
  · exact List.forall_mem_append.2 ⟨hcrawl, by simp [Event.isNote]⟩

end Disk

end Dealias
