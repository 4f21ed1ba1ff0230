import Mathlib.Data.List.Induction
import Dealias.Proofs.Accessible

/-!
# Trees without links

Below the root of such a tree there are directories and files and nothing else, and each file is at
one place only.  There a path and a location say the same: the path of some names below the root
leads to the location below the top that has these names (`LinkFree.visit_below`).  So a walk over
the tree succeeds (`LinkFree.exists_walk`), and what it finds are the files (`LinkFree.leaf_iff`).
-/

namespace Dealias

open Disk (Name)

theorem Path.below_append (p : Path) (names : List Name) (name : Name) :
    p.below (names ++ [name]) = (p.below names).child name.bytes := by
  induction names generalizing p with
  | nil => rfl
  | cons first names ih => exact ih (p.child first.bytes)

namespace Disk

/-- If all that lies below a location lies in directories, then what is above something there is a
directory. -/
theorem directory_of_isSome {disk : Disk} (top : Location) {names rest : List Name}
    (habove : ∀ names name, (disk.node? (top ++ (names ++ [name]))).isSome →
      disk.node? (top ++ names) = some .directory)
    (hne : rest ≠ []) (hsome : (disk.node? (top ++ (names ++ rest))).isSome) :
    disk.node? (top ++ names) = some .directory := by
  induction rest using List.reverseRecOn with
  | nil => exact absurd rfl hne
  | append_singleton front name ih =>
      rw [← List.append_assoc names] at hsome
      have hfront := habove _ name hsome
      by_cases hnil : front = []
      · rwa [hnil, List.append_nil] at hfront
      · exact ih hnil (Option.isSome_of_eq_some hfront)

/-- The root leads to a directory, the top of a tree of directories and files. -/
structure LinkFree (disk : Disk) (here : Location) (root : Path) (top : Location) : Prop where
  leads : disk.visit here root = .ok (top, .directory)
  top_directory : disk.node? top = some .directory
  /-- What lies in the tree lies in a directory. -/
  above : ∀ names name, (disk.node? (top ++ (names ++ [name]))).isSome →
    disk.node? (top ++ names) = some .directory
  no_link : ∀ names target, disk.node? (top ++ names) ≠ some (.link target)
  /-- A file of the tree has no other place, in the tree or elsewhere. -/
  one_place : ∀ names id l, disk.node? (top ++ names) = some (.file id) →
    disk.node? l = some (.file id) → l = top ++ names
  /-- No path of the tree is too long to be followed. -/
  fits : ∀ names, (disk.node? (top ++ names)).isSome →
    (root.below names).bytes.length < pathLimit

namespace LinkFree

variable {disk : Disk} {here top : Location} {root : Path} {names rest : List Name} {name : Name}
  {node : Node} {purpose : Purpose}

/-- No node of the tree is a link. -/
theorem isLink_eq_false (htree : LinkFree disk here root top)
    (hnode : disk.node? (top ++ names) = some node) : node.isLink = false := by
  cases node with
  | directory => rfl
  | file => rfl
  | link target => exact absurd hnode (htree.no_link names target)

/-- **The path of some names below the root leads to the location with these names.** -/
theorem visit_below (htree : LinkFree disk here root top)
    (hnode : disk.node? (top ++ names) = some node) :
    disk.visit here (root.below names) = .ok (top ++ names, node) := by
  induction names using List.reverseRecOn generalizing node with
  | nil =>
      rw [List.append_nil] at hnode ⊢
      rw [htree.top_directory] at hnode
      obtain rfl := Option.some.inj hnode
      exact htree.leads
  | append_singleton front name ih =>
      have hsome := Option.isSome_of_eq_some hnode
      have hlength := htree.fits _ hsome
      have hfront := ih (htree.above front name hsome)
      have hlink := htree.isLink_eq_false hnode
      rw [Path.below_append] at hlength ⊢
      rw [← List.append_assoc] at hnode ⊢
      exact visit_child hfront hnode hlink hlength

/-- A file is met there for every purpose. -/
theorem resolve_below {id : Nat} (htree : LinkFree disk here root top)
    (hnode : disk.node? (top ++ names) = some (.file id)) (hspell : purpose ≠ .spell) :
    disk.resolve here purpose (root.below names) = .ok (.found (top ++ names) (.file id)) := by
  cases names using List.reverseRecOn with
  | nil =>
      rw [List.append_nil, htree.top_directory] at hnode
      cases hnode
  | append_singleton front name =>
      have hsome := Option.isSome_of_eq_some hnode
      have hlength := htree.fits _ hsome
      have hfront := htree.visit_below (htree.above front name hsome)
      rw [Path.below_append] at hlength ⊢
      rw [← List.append_assoc] at hnode ⊢
      exact resolve_child hfront hnode rfl hlength hspell

/-- What leads somewhere below a directory of the tree lies there. -/
theorem node_of_visit {l : Location} (htree : LinkFree disk here root top)
    (hdirectory : disk.node? (top ++ names) = some .directory)
    (hvisit : disk.visit here ((root.below names).child name.bytes) = .ok (l, node)) :
    disk.node? (top ++ (names ++ [name])) = some node := by
  have hparent := htree.visit_below hdirectory
  obtain ⟨found, hfound⟩ := Option.isSome_iff_exists.1 (isSome_of_visit_child hparent hvisit)
  rw [List.append_assoc] at hfound
  have hchild := htree.visit_below hfound
  rw [Path.below_append, hvisit] at hchild
  cases hchild
  exact hfound

/-- A leaf of the tree is a file. -/
theorem file_of_leaf (htree : LinkFree disk here root top)
    (hdirectory : disk.node? (top ++ names) = some .directory)
    (hleaf : Leaf disk here (root.below names) rest) :
    ∃ id, disk.node? (top ++ (names ++ rest)) = some (.file id) := by
  generalize hp : root.below names = p at hleaf
  induction hleaf generalizing names with
  | @last p name l node hvisit hnode =>
      have hfound := htree.node_of_visit hdirectory (hp ▸ hvisit)
      cases node with
      | directory => exact absurd rfl hnode
      | file id => exact ⟨id, hfound⟩
      | link target => exact absurd hfound (htree.no_link _ target)
  | @inside p name l rest hvisit _ ih =>
      have hfound := htree.node_of_visit hdirectory (hp ▸ hvisit)
      obtain ⟨id, hid⟩ := ih hfound (by rw [Path.below_append, hp])
      exact ⟨id, by simpa using hid⟩

/-- A file of the tree is a leaf of every directory above it. -/
theorem leaf_of_file {id : Nat} (htree : LinkFree disk here root top) (hne : rest ≠ [])
    (hfile : disk.node? (top ++ (names ++ rest)) = some (.file id)) :
    Leaf disk here (root.below names) rest := by
  induction rest generalizing names with
  | nil => exact absurd rfl hne
  | cons name rest ih =>
      have hchild : root.below (names ++ [name]) = (root.below names).child name.bytes :=
        Path.below_append ..
      cases rest with
      | nil => exact .last (hchild ▸ htree.visit_below hfile) (by simp)
      | cons next rest =>
          have happend : names ++ name :: next :: rest = names ++ [name] ++ next :: rest := by simp
          rw [happend] at hfile
          have hdirectory :=
            directory_of_isSome top htree.above (by simp) (Option.isSome_of_eq_some hfile)
          exact .inside (hchild ▸ htree.visit_below hdirectory) (hchild ▸ ih (by simp) hfile)

/-- **The leaves of a tree without links are its files.** -/
theorem leaf_iff (htree : LinkFree disk here root top) :
    Leaf disk here root names ↔ ∃ id, disk.node? (top ++ names) = some (.file id) := by
  constructor
  · intro hleaf
    have htop : disk.node? (top ++ []) = some .directory := by simpa using htree.top_directory
    exact htree.file_of_leaf htop hleaf
  · rintro ⟨id, hfile⟩
    have hne : names ≠ [] := by
      rintro rfl
      simp [htree.top_directory] at hfile
    have hleaf : Leaf disk here (root.below []) names := htree.leaf_of_file hne hfile
    exact hleaf

/-- Names that lead along directories below the root lie in the tree. -/
theorem directory_of_passable (htree : LinkFree disk here root top)
    (hpass : Passable disk here root names) : disk.node? (top ++ names) = some .directory := by
  induction names using List.reverseRecOn with
  | nil => simpa using htree.top_directory
  | append_singleton front name ih =>
      have hfront := ih fun more hmore => hpass more (hmore.trans (List.prefix_append ..))
      obtain ⟨l, hvisit⟩ := hpass _ (List.prefix_refl _)
      rw [Path.below_append] at hvisit
      exact htree.node_of_visit hfront hvisit

/-- **A walk over a tree without links succeeds.** -/
theorem exists_walk (htree : LinkFree disk here root top) :
    ∃ entries, (disk.walk here root).result = .ok entries := by
  refine exists_walk_iff.2 ⟨⟨top, htree.leads⟩, fun names l name hpass hvisit hname => ?_⟩
  have hdirectory := htree.directory_of_passable hpass
  rw [htree.visit_below hdirectory] at hvisit
  cases hvisit
  obtain ⟨node, hnode⟩ := Option.isSome_iff_exists.1 (mem_children.1 hname)
  rw [List.append_assoc] at hnode
  exact ⟨_, Path.below_append .. ▸ htree.visit_below hnode⟩

end LinkFree

/-- What a row of a disk has to say for a tree to be without links. -/
def LinkFreeAt (disk : Disk) (root : Path) (top l : Location) : Prop :=
  (l = top ∨ disk.node? l.dropLast = some .directory) ∧ (disk.node? l).any Node.isLink = false ∧
    (∀ m ∈ disk.nodes.keys, disk.node? m = disk.node? l → m = l ∨ disk.node? l = some .directory) ∧
    (root.below (l.drop top.length)).bytes.length < pathLimit

instance (disk : Disk) (root : Path) (top l : Location) :
    Decidable (LinkFreeAt disk root top l) := by
  unfold LinkFreeAt
  infer_instance

/-- **The rows of a disk decide whether a tree has no links.** -/
theorem linkFree_of_rows {disk : Disk} {here top : Location} {root : Path}
    (hleads : disk.visit here root = .ok (top, .directory))
    (htop : disk.node? top = some .directory)
    (hrows : ∀ l ∈ disk.nodes.keys, top <+: l → LinkFreeAt disk root top l) :
    LinkFree disk here root top := by
  have hkey : ∀ l, l ≠ [] → (disk.node? l).isSome → l ∈ disk.nodes.keys := by
    intro l hne hsome
    rw [node?, if_neg hne] at hsome
    exact Table.mem_keys.2 hsome
  have hrow : ∀ names, names ≠ [] → (disk.node? (top ++ names)).isSome →
      LinkFreeAt disk root top (top ++ names) := by
    intro names hne hsome
    exact hrows _ (hkey _ (by simp [hne]) hsome) (List.prefix_append ..)
  refine ⟨hleads, htop, fun names name hsome => ?_, fun names target hnode => ?_,
    fun names id l hnode hother => ?_, fun names hsome => ?_⟩
  · rcases (hrow _ (by simp) hsome).1 with hsame | habove
    · simp at hsame
    · rwa [← List.append_assoc, List.dropLast_concat] at habove
  · have hne : names ≠ [] := by
      rintro rfl
      simp [htop] at hnode
    have hlink := (hrow names hne (Option.isSome_of_eq_some hnode)).2.1
    simp [hnode, Node.isLink] at hlink
  · have hne : names ≠ [] := by
      rintro rfl
      simp [htop] at hnode
    have hl : l ≠ [] := by
      rintro rfl
      simp [node?] at hother
    have hplace := (hrow names hne (Option.isSome_of_eq_some hnode)).2.2.1 l
      (hkey l hl (Option.isSome_of_eq_some hother)) (hother.trans hnode.symm)
    simpa [hnode] using hplace
  · by_cases hne : names = []
    · subst hne
      exact length_lt_of_visit hleads
    · simpa using (hrow names hne hsome).2.2.2

end Disk

end Dealias
