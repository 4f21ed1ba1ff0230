import Dealias.Proofs.LaidOut
import Dealias.Proofs.Obstacle
import Dealias.Proofs.Tree

/-!
# Walks on disks with loops

Links may lead into the directories above them, into each other's directories or to themselves, and
a walk looks out for none of that: it follows every link again, on ever longer paths.  What ends it
are the limits of a path.  Between two links a path can only go down as far as the disk is deep, and
it passes through so many links and no more; and each name makes it longer (`length_lt_nesting`).
So directories are nested in each other only so often, and the walk comes to an end without ever
going further (`crawlUpTo_eq`).

The end of a walk that is led back into a directory where it has been is always a fault.  The names
that led there lead there again, so without a fault they could be repeated without an end
(`Accessible.visit_of_reaches`).  Where a path leads is asked here without the limits (`Reaches`): a
loop behind more links than may be followed counts as well.
-/

namespace Dealias.Disk

variable {disk : Disk} {here l m r top : Location} {p root : Path} {depth : Depth} {name : Name}
  {names front loop : List Name} {links left : Nat} {xs ys : List Step}

/-! ## Crawls that give up -/

/-- The names of a directory in turn, where `nested` crawls the directories among them and may give
up. -/
def crawlNamesBy (disk : Disk) (here : Location) (nested : Path → Depth → Option Walk) (p : Path)
    (depth : Depth) : List Name → Option Walk
  | [] => some .nothing
  | name :: names =>
    match disk.visit here (p.child name.bytes) with
    | .error fault => some (.failed (p.child name.bytes) fault)
    | .ok (_, .directory) =>
      (nested (p.child name.bytes) depth.descend).bind fun first =>
        match first.result with
        | .error _ => some first
        | .ok _ =>
          (crawlNamesBy disk here nested p depth names).map fun later =>
            first.andThen fun _ => later
    | .ok _ =>
      (crawlNamesBy disk here nested p depth names).map (.found ⟨p.child name.bytes, depth⟩)

/-- A crawl that gives up rather than nest more than so many directories in each other.  It has no
other bound: it goes by the number of levels, whatever the paths and the disk are. -/
def crawlUpTo (disk : Disk) (here : Location) : Nat → Path → Depth → Option Walk
  | 0, _, _ => none
  | levels + 1, p, depth =>
    match disk.list here p with
    | .error fault => some (.note (.crawl p depth) (.failed p fault))
    | .ok names =>
      (crawlNamesBy disk here (crawlUpTo disk here levels) p depth names).map
        (.note (.crawl p depth))

/-- Names are crawled as ever if no crawl of a directory among them gives up. -/
theorem crawlNamesBy_eq {nested : Path → Depth → Option Walk}
    (hnested : ∀ (name : Name) l, disk.visit here (p.child name.bytes) = .ok (l, .directory) →
      nested (p.child name.bytes) depth.descend =
        some (disk.crawl here (p.child name.bytes) depth.descend))
    (names : List Name) :
    crawlNamesBy disk here nested p depth names = some (disk.crawlNames here p depth names) := by
  induction names with
  | nil => rw [crawlNamesBy, crawlNames]
  | cons name names ih =>
      rw [crawlNamesBy]
      cases hvisit : disk.visit here (p.child name.bytes) with
      | error fault => rw [crawlNames_of_error hvisit]
      | ok found =>
          obtain ⟨l, node⟩ := found
          by_cases hnode : node = .directory
          · subst hnode
            rw [crawlNames_of_directory hvisit, hnested name l hvisit]
            cases hfirst : (disk.crawl here (p.child name.bytes) depth.descend).result with
            | error e =>
                simp only [Option.bind_some, hfirst, Walk.andThen]
                rw [← hfirst]
            | ok entries => simp [hfirst, ih]
          · rw [crawlNames_of_ne_directory hvisit hnode]
            cases node <;> simp_all

/-- **A crawl that may nest as many directories as there are in each other does not give up.**  The
levels that are left suffice below a name, as what is passable from there is one name shorter. -/
theorem crawlUpTo_eq {levels : Nat} (hpos : 0 < levels)
    (hlevels : ∀ names, Passable disk here p names → names.length < levels) (depth : Depth) :
    crawlUpTo disk here levels p depth = some (disk.crawl here p depth) := by
  induction levels generalizing p depth with
  | zero => omega
  | succ levels ih =>
      rw [crawlUpTo, crawl]
      cases hlist : disk.list here p with
      | error fault => rfl
      | ok children =>
          obtain ⟨r, hp, rfl⟩ := list_eq_ok hlist
          have hbelow : ∀ (name : Name) l,
              disk.visit here (p.child name.bytes) = .ok (l, .directory) →
              crawlUpTo disk here levels (p.child name.bytes) depth.descend =
                some (disk.crawl here (p.child name.bytes) depth.descend) := by
            intro name l hvisit
            have hlonger : ∀ names, Passable disk here (p.child name.bytes) names →
                names.length < levels := by
              intro names hpass
              have := hlevels (name :: names) (passable_cons.2 ⟨⟨r, hp⟩, hpass⟩)
              simpa using this
            have hfirst := hlonger [] (passable_nil.2 ⟨l, hvisit⟩)
            exact ih (by simpa using hfirst) hlonger depth.descend
          simp [crawlNamesBy_eq hbelow]

/-! ## How many directories are nested in each other -/

/-- The length of the longest location on a disk. -/
def height (disk : Disk) : Nat :=
  (disk.nodes.keys.map List.length).max?.getD 0

/-- No location that holds something is longer than the disk is high. -/
theorem length_le_height {node : Node} (h : disk.node? l = some node) :
    l.length ≤ disk.height := by
  by_cases hl : l = []
  · simp [hl]
  · rw [node?, if_neg hl] at h
    have hkey : l ∈ disk.nodes.keys := Table.mem_keys.2 (Option.isSome_of_eq_some h)
    exact List.le_max?_getD_of_mem (List.mem_map_of_mem hkey)

/-- Following steps gives no links back. -/
theorem Leads.left_le (h : Leads disk links l xs left r) : left ≤ links := by
  induction h with
  | arrived => exact Nat.le_refl _
  | go _ _ ih => exact ih
  | follow _ _ ih => omega

/-- How many names can still be taken, going down from a location with some links left: as many as
the disk is deeper than that, and behind each link one more than the disk is deep. -/
def reserve (disk : Disk) (links : Nat) (l : Location) : Nat :=
  links * (disk.height + 1) + (disk.height - l.length)

/-- A name uses up the reserve, be it the name of a directory or of a link. -/
theorem Leads.reserve_lt (h : Leads disk links l [.down name] left r) :
    disk.reserve left r < disk.reserve links l := by
  cases h with
  | go hstep tail =>
      cases hstep with
      | down hnode =>
          cases tail
          have := length_le_height hnode
          simp only [List.length_append, List.length_singleton] at this
          simp only [reserve, List.length_append, List.length_singleton]
          omega
  | @follow fewer _ _ _ _ target _ hnode tail =>
      have hfewer := tail.left_le
      calc disk.reserve left r
          ≤ left * (disk.height + 1) + disk.height := by
            unfold reserve
            omega
        _ ≤ fewer * (disk.height + 1) + disk.height :=
            Nat.add_le_add_right (Nat.mul_le_mul_right _ hfewer) _
        _ < (fewer + 1) * (disk.height + 1) := by
            rw [Nat.add_mul]
            omega
        _ ≤ disk.reserve (fewer + 1) l := Nat.le_add_right ..

/-- Names that lead down from a location are no more than its reserve. -/
theorem Leads.length_le_reserve (h : Leads disk links l (names.map .down) left r) :
    names.length ≤ disk.reserve links l := by
  induction names generalizing links l with
  | nil => exact Nat.zero_le _
  | cons name names ih =>
      have hnames : Leads disk links l ([.down name] ++ names.map .down) left r := h
      obtain ⟨between, middle, hfirst, hrest⟩ := hnames.split
      have := hfirst.reserve_lt
      have := ih hrest
      simp only [List.length_cons]
      omega

/-- Names below a path are as many steps down behind its own. -/
theorem named_below (p : Path) (names : List Name) :
    named (p.below names) = named p ++ names.map .down := by
  induction names generalizing p with
  | nil => simp [Path.below]
  | cons name names ih => simp [Path.below, ih, named_child]

/-- A path with names behind it is followed from where the path is. -/
theorem pathStart_below (here : Location) (p : Path) (names : List Name) :
    pathStart here (p.below names) = pathStart here p := by
  induction names generalizing p with
  | nil => rfl
  | cons name names ih => rw [Path.below, ih, pathStart, isAbsolute_child, ← pathStart]

/-- Each name makes a path longer by a byte at least. -/
theorem length_add_le_length_below (p : Path) (names : List Name) :
    p.bytes.length + names.length ≤ (p.below names).bytes.length := by
  induction names generalizing p with
  | nil => simp [Path.below]
  | cons name names ih =>
      have := length_lt_length_child p name
      have := ih (p.child name.bytes)
      simp only [Path.below, List.length_cons]
      omega

/-- How many directories can be nested in each other below a path, itself among them: for each link
that may be followed, and once more, all levels of the disk; but no more than there is room for
names on a path. -/
def nesting (disk : Disk) (p : Path) : Nat :=
  min ((linkLimit + 1) * (disk.height + 1)) (pathRoom p + 1)

/-- **Names that lead to a directory are fewer than directories can be nested.** -/
theorem length_lt_nesting (h : disk.visit here (p.below names) = .ok (r, .directory)) :
    names.length < disk.nesting p := by
  obtain ⟨left, hleads⟩ := exists_leads_of_visit h
  rw [named_below] at hleads
  obtain ⟨between, middle, hroot, hnames⟩ := hleads.split
  have hlinks : names.length < (linkLimit + 1) * (disk.height + 1) := by
    calc names.length
        ≤ disk.reserve between middle := hnames.length_le_reserve
      _ ≤ between * (disk.height + 1) + disk.height := by
          unfold reserve
          omega
      _ ≤ linkLimit * (disk.height + 1) + disk.height :=
          Nat.add_le_add_right (Nat.mul_le_mul_right _ hroot.left_le) _
      _ < (linkLimit + 1) * (disk.height + 1) := by
          rw [Nat.add_mul]
          omega
  have hlength := length_lt_of_visit h
  have hlonger := length_add_le_length_below p names
  unfold nesting pathRoom
  omega

/-- The directory that a path leads to is nested itself. -/
theorem nesting_pos (disk : Disk) (p : Path) : 0 < disk.nesting p := by
  have : 0 < (linkLimit + 1) * (disk.height + 1) := Nat.mul_pos (by decide) (by omega)
  unfold nesting
  omega

/-! ## Where names lead without the limits -/

/-- From a directory the steps lead to a directory, through however many links. -/
def Reaches (disk : Disk) (l : Location) (steps : List Step) (r : Location) : Prop :=
  ∃ links left, Leads disk links l steps left r

/-- Links that are not needed are left at the end. -/
theorem Leads.add_links (h : Leads disk links l xs left r) (more : Nat) :
    Leads disk (links + more) l xs (left + more) r := by
  induction h with
  | arrived links l => exact .arrived (links + more) l
  | go hstep _ ih => exact .go hstep ih
  | @follow links left l r name target rest hnode _ ih =>
      rw [Nat.add_right_comm]
      exact .follow hnode ih

/-- Steps are followed one part after the other, with the links that are left. -/
theorem Leads.append (h : Leads disk links l xs left m) {last : Nat}
    (h' : Leads disk left m ys last r) : Leads disk links l (xs ++ ys) last r := by
  induction h with
  | arrived => exact h'
  | go hstep _ ih => exact .go hstep (ih h')
  | follow hnode _ ih => exact .follow hnode (by simpa using ih h')

theorem Reaches.trans (h : Reaches disk l xs m) (h' : Reaches disk m ys r) :
    Reaches disk l (xs ++ ys) r := by
  obtain ⟨links, left, hfirst⟩ := h
  obtain ⟨links', left', hsecond⟩ := h'
  have hfirst := hfirst.add_links links'
  have hsecond := hsecond.add_links left
  rw [Nat.add_comm links'] at hsecond
  exact ⟨_, _, hfirst.append hsecond⟩

/-- Steps in two parts reach a place in between. -/
theorem Reaches.split (h : Reaches disk l (xs ++ ys) r) :
    ∃ m, Reaches disk l xs m ∧ Reaches disk m ys r := by
  obtain ⟨links, left, hleads⟩ := h
  obtain ⟨between, m, hfirst, hsecond⟩ := hleads.split
  exact ⟨m, ⟨_, _, hfirst⟩, _, _, hsecond⟩

/-- **Steps that arrive somewhere arrive where they lead without the limits.** -/
theorem Leads.eq_of_arrives {node : Node} {fewer : Nat} (h : Leads disk links l xs left r)
    (harrives : Arrives disk fewer l xs m node) : m = r ∧ node = .directory := by
  induction h generalizing fewer with
  | arrived => cases harrives with | directory => exact ⟨rfl, rfl⟩
  | go hstep _ ih =>
      cases harrives with
      | file hfile =>
          cases hstep with
          | down hnode => simp [hfile] at hnode
      | go hother tail =>
          cases hstep <;> cases hother <;> exact ih tail
      | follow hlink =>
          cases hstep with
          | down hnode => simp [hlink] at hnode
  | follow hnode _ ih =>
      cases harrives with
      | file hfile => simp [hfile] at hnode
      | go hother =>
          cases hother with
          | down hdirectory => simp [hdirectory] at hnode
      | follow hlink tail =>
          rw [hnode] at hlink
          cases hlink
          exact ih tail

/-- Steps that lead to a directory arrive at it. -/
theorem Leads.arrives (h : Leads disk links l xs left r) :
    Arrives disk links l xs r .directory := by
  induction h with
  | arrived links l => exact .directory links l
  | go hstep _ ih => exact .go hstep ih
  | follow hnode _ ih => exact .follow hnode ih

/-- Without the limits steps reach what they lead to within them. -/
theorem Reaches.eq_of_leads (h : Reaches disk l xs r) (hleads : Leads disk links l xs left m) :
    m = r := by
  obtain ⟨_, _, h⟩ := h
  exact (h.eq_of_arrives hleads.arrives).1

/-! ## Loops -/

/-- Names from the root on lead into a directory, and more names lead from there back into it. -/
def LeadsBack (disk : Disk) (here : Location) (root : Path) : Prop :=
  ∃ (front loop : List Name) (l : Location), loop ≠ [] ∧
    Reaches disk (pathStart here root) (named root ++ front.map .down) l ∧
    Reaches disk l (loop.map .down) l

/-- **A path that leads somewhere leads where it would without the limits.** -/
theorem Reaches.eq_of_visit {node : Node} (h : Reaches disk (pathStart here p) (named p) r)
    (hvisit : disk.visit here p = .ok (l, node)) : l = r ∧ node = .directory := by
  have harrives := arrives_of_within (visit_eq_ok hvisit).2.2
  have hslash : Reaches disk r [.slash] r := ⟨0, 0, .go .slash (.arrived 0 r)⟩
  have hsteps : Reaches disk (pathStart here p) (steps p) r := by
    rcases steps_eq_or p with hsteps | hsteps
    · rwa [hsteps]
    · rw [hsteps]
      exact h.trans hslash
  obtain ⟨_, _, hleads⟩ := hsteps
  exact hleads.eq_of_arrives harrives

theorem reaches_of_visit (h : disk.visit here p = .ok (l, .directory)) :
    Reaches disk (pathStart here p) (named p) l := by
  obtain ⟨left, hleads⟩ := exists_leads_of_visit h
  exact ⟨_, left, hleads⟩

/-- Names that lead from a directory to a directory begin with a name in it. -/
theorem Reaches.mem_children (h : Reaches disk l (.down name :: xs) r) :
    name ∈ disk.children l := by
  rw [Disk.mem_children]
  obtain ⟨_, _, hleads⟩ := h
  cases hleads with
  | go hstep =>
      cases hstep with
      | down hnode => exact Option.isSome_of_eq_some hnode
  | follow hnode => exact Option.isSome_of_eq_some hnode

/-- Where two paths lead to one directory and one goes on from the other, a walk is led back. -/
theorem leadsBack_of_visit (hne : loop ≠ [])
    (hfront : disk.visit here (root.below front) = .ok (l, .directory))
    (hloop : disk.visit here (root.below (front ++ loop)) = .ok (l, .directory)) :
    LeadsBack disk here root := by
  have hreaches := reaches_of_visit hfront
  have hback := reaches_of_visit hloop
  rw [named_below, pathStart_below] at hreaches hback
  rw [List.map_append, ← List.append_assoc] at hback
  obtain ⟨m, ⟨_, _, hleads⟩, hsecond⟩ := hback.split
  obtain rfl := hreaches.eq_of_leads hleads
  exact ⟨front, loop, m, hne, hreaches, hsecond⟩

/-- **Where every name leads somewhere, a walk meets all that is reached without the limits.**  This
goes from one name to the next, as each of them is in a directory that is met. -/
theorem Accessible.visit_of_reaches (haccess : disk.Accessible here root)
    (h : Reaches disk (pathStart here root) (named root ++ names.map .down) r) :
    Passable disk here root names ∧ disk.visit here (root.below names) = .ok (r, .directory) := by
  induction names using List.reverseRecOn generalizing r with
  | nil =>
      obtain ⟨l, hroot⟩ := haccess.directory
      rw [List.map_nil, List.append_nil] at h
      obtain ⟨rfl, -⟩ := h.eq_of_visit hroot
      exact ⟨passable_nil.2 haccess.directory, hroot⟩
  | append_singleton names name ih =>
      have hwhole : Reaches disk (pathStart here (root.below (names ++ [name])))
          (named (root.below (names ++ [name]))) r := by
        rwa [named_below, pathStart_below]
      rw [List.map_append, ← List.append_assoc] at h
      obtain ⟨m, hfront, hlast⟩ := h.split
      obtain ⟨hpass, hvisit⟩ := ih hfront
      obtain ⟨⟨l, node⟩, hfound⟩ := haccess.leads names m name hpass hvisit hlast.mem_children
      rw [← Path.below_append] at hfound
      obtain ⟨rfl, rfl⟩ := hwhole.eq_of_visit hfound
      refine ⟨fun more hmore => ?_, hfound⟩
      rcases List.prefix_concat_iff.1 hmore with rfl | hmore
      · exact ⟨l, hfound⟩
      · exact hpass more hmore

/-- The names of a loop again and again. -/
theorem Reaches.repeat (h : Reaches disk l (loop.map .down) l) (times : Nat) :
    Reaches disk l ((List.replicate times loop).flatten.map .down) l := by
  induction times with
  | zero => exact ⟨0, 0, .arrived 0 l⟩
  | succ times ih =>
      rw [List.replicate_succ, List.flatten_cons, List.map_append]
      exact h.trans ih

/-- **A walk that is led back meets something that leads nowhere.** -/
theorem LeadsBack.not_accessible (h : LeadsBack disk here root) : ¬ disk.Accessible here root := by
  intro haccess
  obtain ⟨front, loop, l, hne, hfront, hloop⟩ := h
  have hround := hfront.trans (hloop.repeat (disk.nesting root))
  rw [List.append_assoc, ← List.map_append] at hround
  have hshort := length_lt_nesting (haccess.visit_of_reaches hround).2
  have hpos := List.length_pos_iff.2 hne
  have hlong : disk.nesting root ≤ disk.nesting root * loop.length := Nat.le_mul_of_pos_right _ hpos
  simp only [List.length_append, List.length_flatten, List.map_replicate, List.sum_replicate,
    smul_eq_mul] at hshort
  omega

/-- **Every walk comes to an end**, without nesting more directories in each other than the limits
of a path allow, whatever links there are; and if it is led back into a directory where it has been,
the end is a fault. -/
theorem walk_ends (disk : Disk) (here : Location) (root : Path) :
    (∀ levels depth, disk.nesting root ≤ levels →
      crawlUpTo disk here levels root depth = some (disk.crawl here root depth)) ∧
    (LeadsBack disk here root →
      (∀ depth, ∃ row fault, (disk.crawl here root depth).result =
        .error (.directoryRead (root.below row) fault)) ∧
      ∃ row fault, (disk.walk here root).result =
        .error (.directoryRead (root.below row) fault)) := by
  constructor
  · intro levels depth hlevels
    have hpos := nesting_pos disk root
    refine crawlUpTo_eq (by omega) (fun names hpass => ?_) depth
    obtain ⟨l, hvisit⟩ := hpass names (List.prefix_refl names)
    exact Nat.lt_of_lt_of_le (length_lt_nesting hvisit) hlevels
  · intro hback
    have hcrawl : ∀ depth, ∃ row fault, (disk.crawl here root depth).result =
        .error (.directoryRead (root.below row) fault) := by
      intro depth
      have hsettles := crawl_settles disk here root depth
      generalize hresult : (disk.crawl here root depth).result = result at hsettles
      cases hsettles with
      | through => exact absurd (exists_crawl_iff.1 ⟨_, hresult⟩) hback.not_accessible
      | stuck row => exact ⟨row, _, rfl⟩
    exact ⟨hcrawl, walk_result disk here root ▸ hcrawl .root⟩

/-- Two directories with a link in each that leads into the other one. -/
def mutualDisk : Disk where
  nodes :=
    ⟨[(.ofPath (.ofText "/d"), .directory),
      (.ofPath (.ofText "/d/a"), .directory),
      (.ofPath (.ofText "/d/a/x"), .link (.ofText "../b")),
      (.ofPath (.ofText "/d/b"), .directory),
      (.ofPath (.ofText "/d/b/y"), .link (.ofText "../a"))],
      by decide⟩
  files := .empty

/-- From `d/a` the links of the two directories lead to `d/a` again. -/
theorem walk_ends_mutualDisk :
    LeadsBack mutualDisk [] (.ofText "d") ∧
    ∃ row fault, (mutualDisk.walk [] (.ofText "d")).result =
      .error (.directoryRead ((Path.ofText "d").below row) fault) := by
  have hfront : mutualDisk.visit [] ((Path.ofText "d").below [⟨Text.bytes "a", by decide⟩]) =
      .ok ([⟨Text.bytes "d", by decide⟩, ⟨Text.bytes "a", by decide⟩], .directory) := by
    cbv
  have hloop : mutualDisk.visit [] ((Path.ofText "d").below
      ([⟨Text.bytes "a", by decide⟩] ++
        [⟨Text.bytes "x", by decide⟩, ⟨Text.bytes "y", by decide⟩])) =
      .ok ([⟨Text.bytes "d", by decide⟩, ⟨Text.bytes "a", by decide⟩], .directory) := by
    cbv
  have hback := leadsBack_of_visit (by simp) hfront hloop
  exact ⟨hback, ((walk_ends mutualDisk [] (.ofText "d")).2 hback).2⟩

end Dealias.Disk
