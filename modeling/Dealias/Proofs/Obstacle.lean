import Mathlib
import Dealias.Proofs.RunOnTree

/-!
# Where a walk gets stuck

A walk asks of a root to be listed, and of every name in a directory that it lists where the name
leads.  An obstacle is a row of names, each of them met below the ones before it, at whose end the
walk asks for something that fails (`Obstacle`).  That says nothing about an order: a tree may hold
many obstacles, and most of them are never come to.

A walk comes to the first of them, in the order in which a row stands before the rows that go on
from it and those that differ from it first by a later name (`Before`).  It gives no entry then, and
not even those in front of the obstacle (`crawl_settles`).  So nothing is read or written by a run
whose root holds an obstacle anywhere (`run_stops_at_first_obstacle`).
-/

namespace Dealias.Disk

variable {disk : Disk} {here l r : Location} {p : Path} {depth : Depth} {name : Name}
  {names row : List Name} {fault : Fault}

/-! ## Obstacles -/

/-- The names lead along directories that are met one below the other to something that cannot be
listed or looked at. -/
inductive Obstacle (disk : Disk) (here : Location) : Path → List Name → Fault → Prop
  | unlisted {p : Path} {fault : Fault} (hlist : disk.list here p = .error fault) :
      Obstacle disk here p [] fault
  | unseen {p : Path} {l : Location} {name : Name} {fault : Fault}
      (hp : disk.visit here p = .ok (l, .directory)) (hname : name ∈ disk.children l)
      (hvisit : disk.visit here (p.child name.bytes) = .error fault) :
      Obstacle disk here p [name] fault
  | inside {p : Path} {l m : Location} {name : Name} {names : List Name} {fault : Fault}
      (hp : disk.visit here p = .ok (l, .directory)) (hname : name ∈ disk.children l)
      (hvisit : disk.visit here (p.child name.bytes) = .ok (m, .directory))
      (tail : Obstacle disk here (p.child name.bytes) names fault) :
      Obstacle disk here p (name :: names) fault

/-- An obstacle below a directory begins with a name in it. -/
theorem Obstacle.exists_head (h : Obstacle disk here p row fault)
    (hp : disk.visit here p = .ok (r, .directory)) :
    ∃ name ∈ disk.children r, row.head? = some name := by
  cases h with
  | unlisted hlist => simp [list, hp] at hlist
  | unseen hdir hname =>
      rw [hp] at hdir
      cases hdir
      exact ⟨_, hname, rfl⟩
  | inside hdir hname =>
      rw [hp] at hdir
      cases hdir
      exact ⟨_, hname, rfl⟩

/-- Behind a name that leads to a directory stand the obstacles below it. -/
theorem obstacle_cons_iff_of_directory (hp : disk.visit here p = .ok (r, .directory))
    (hname : name ∈ disk.children r)
    (hvisit : disk.visit here (p.child name.bytes) = .ok (l, .directory)) :
    Obstacle disk here p (name :: names) fault ↔
      Obstacle disk here (p.child name.bytes) names fault := by
  constructor
  · intro h
    cases h with
    | unseen _ _ hunseen =>
        rw [hvisit] at hunseen
        cases hunseen
    | inside _ _ _ tail => exact tail
  · exact .inside hp hname hvisit

/-- A name that leads to something else is no obstacle, and none is behind it. -/
theorem not_obstacle_of_ne_directory {node : Node}
    (hvisit : disk.visit here (p.child name.bytes) = .ok (l, node)) (hnode : node ≠ .directory) :
    ¬ Obstacle disk here p (name :: names) fault := by
  intro h
  cases h with
  | unseen _ _ hunseen =>
      rw [hvisit] at hunseen
      cases hunseen
  | inside _ _ hbelow =>
      rw [hvisit] at hbelow
      cases hbelow
      exact hnode rfl

/-- The obstacles that begin with one of some names. -/
def ObstacleAmong (disk : Disk) (here : Location) (p : Path) (names row : List Name)
    (fault : Fault) : Prop :=
  Obstacle disk here p row fault ∧ ∃ name ∈ names, row.head? = some name

/-- An obstacle that begins with one of some names begins with the first or with one of the
others. -/
theorem obstacleAmong_cons_iff :
    ObstacleAmong disk here p (name :: names) row fault ↔
      (∃ rest, row = name :: rest ∧ Obstacle disk here p (name :: rest) fault) ∨
        ObstacleAmong disk here p names row fault := by
  cases row with
  | nil => simp [ObstacleAmong]
  | cons first rest =>
      simp only [ObstacleAmong, List.head?_cons, Option.some.injEq, List.mem_cons, List.cons.injEq]
      grind

/-! ## The first obstacle -/

/-- Of two rows that differ, one stands before the other. -/
theorem before_trichotomy (row other : List Name) :
    Before row other ∨ row = other ∨ Before other row := by
  induction row generalizing other with
  | nil => cases other <;> simp
  | cons name row ih =>
      cases other with
      | nil => simp
      | cons first other =>
          by_cases hlt : name.bytes < first.bytes
          · exact .inl (.rel hlt)
          · by_cases hgt : first.bytes < name.bytes
            · exact .inr (.inr (.rel hgt))
            · obtain rfl : name = first := Name.eq_of_bytes (List.le_antisymm hgt hlt)
              rcases ih other with hbefore | rfl | hbehind
              · exact .inl (.cons hbefore)
              · exact .inr (.inl rfl)
              · exact .inr (.inr (.cons hbehind))

/-- One of some rows with their faults, and none of them stands before it. -/
structure IsFirst (among : List Name → Fault → Prop) (row : List Name) (fault : Fault) : Prop where
  mem : among row fault
  first : ∀ other why, among other why → ¬ Before other row

/-- Only one row is the first. -/
theorem IsFirst.unique {among : List Name → Fault → Prop} {other : List Name} {why : Fault}
    (h : IsFirst among row fault) (h' : IsFirst among other why) : other = row := by
  rcases before_trichotomy other row with hbefore | rfl | hbehind
  · exact absurd hbefore (h.first other why h'.mem)
  · rfl
  · exact absurd hbehind (h'.first row fault h.mem)

/-- The first obstacle that begins with the first name is the first one of all. -/
theorem IsFirst.cons (hsorted : ∀ later ∈ names, name.bytes < later.bytes)
    (h : IsFirst (fun rest why => Obstacle disk here p (name :: rest) why) row fault) :
    IsFirst (ObstacleAmong disk here p (name :: names)) (name :: row) fault := by
  refine ⟨obstacleAmong_cons_iff.2 (.inl ⟨row, rfl, h.mem⟩), fun other why hother hbefore => ?_⟩
  rcases obstacleAmong_cons_iff.1 hother with ⟨rest, rfl, hrest⟩ | ⟨-, later, hlater, hhead⟩
  · cases hbefore with
    | cons hlt => exact h.first rest why hrest hlt
    | rel hlt => exact List.lt_irrefl _ hlt
  · obtain ⟨rest, rfl⟩ := List.head?_eq_some_iff.1 hhead
    cases hbefore with
    | cons => exact List.lt_irrefl _ (hsorted _ hlater)
    | rel hlt => exact List.lt_irrefl _ (List.lt_trans hlt (hsorted _ hlater))

/-! ## Walks -/

/-- A walk from a path finds entries and there is no obstacle, or it gets stuck at the first one. -/
inductive Settles (p : Path) (among : List Name → Fault → Prop) :
    Except SystemError (List Entry) → Prop
  | through {entries : List Entry} (h : ∀ row fault, ¬ among row fault) :
      Settles p among (.ok entries)
  | stuck (row : List Name) {fault : Fault} (h : IsFirst among row fault) :
      Settles p among (.error (.directoryRead (p.below row) fault))

/-- Whether a walk gets stuck does not depend on what else it finds. -/
theorem Settles.map {among : List Name → Fault → Prop}
    {result : Except SystemError (List Entry)} (h : Settles p among result)
    (f : List Entry → List Entry) : Settles p among (result.map f) := by
  cases h with
  | through h => exact .through h
  | stuck row h => exact .stuck row h

/-- Behind a name with no obstacle, the names behind it decide. -/
theorem Settles.cons {result : Except SystemError (List Entry)}
    (hnone : ∀ rest fault, ¬ Obstacle disk here p (name :: rest) fault)
    (h : Settles p (ObstacleAmong disk here p names) result) :
    Settles p (ObstacleAmong disk here p (name :: names)) result := by
  have hsame : ObstacleAmong disk here p (name :: names) = ObstacleAmong disk here p names := by
    funext row fault
    rw [obstacleAmong_cons_iff, or_iff_right_of_imp]
    rintro ⟨rest, -, hrest⟩
    exact absurd hrest (hnone rest fault)
  rwa [hsame]

/-- **A crawl gets stuck at the first obstacle below its path**, and finds its way through if there
is none.  Over the names of a directory that are left, it is the obstacles behind one of these that
are in question. -/
theorem crawl_settles (disk : Disk) (here : Location) (p : Path) (depth : Depth) :
    Settles p (Obstacle disk here p) (disk.crawl here p depth).result := by
  refine crawl.induct disk here
    (fun p depth => Settles p (Obstacle disk here p) (disk.crawl here p depth).result)
    (fun p depth names => ∀ r, disk.visit here p = .ok (r, .directory) →
      (∀ name ∈ names, name ∈ disk.children r) → names.Pairwise (fun a b => a.bytes < b.bytes) →
      Settles p (ObstacleAmong disk here p names) (disk.crawlNames here p depth names).result)
    ?_ ?_ ?_ ?_ ?_ p depth
  · intro p depth ih
    rw [crawl]
    cases hlist : disk.list here p with
    | error fault =>
        exact .stuck [] ⟨.unlisted hlist, fun other why _ => List.not_lex_nil⟩
    | ok names =>
        obtain ⟨r, hp, rfl⟩ := list_eq_ok hlist
        have hall : Obstacle disk here p = ObstacleAmong disk here p (disk.children r) := by
          funext row fault
          exact propext ⟨fun h => ⟨h, h.exists_head hp⟩, And.left⟩
        rw [hall]
        exact ih _ r hp (fun name hname => hname) (children_pairwise disk r)
  · intro p depth r _ _ _
    rw [crawlNames]
    exact .through fun row fault h => by simpa using h.2
  · intro p depth name names fault hvisit r hp hmem hsorted
    obtain ⟨hfirst, -⟩ := List.pairwise_cons.1 hsorted
    rw [crawlNames_of_error hvisit]
    refine .stuck [name] (.cons hfirst ⟨?_, fun other why _ => List.not_lex_nil⟩)
    exact .unseen hp (hmem name List.mem_cons_self) hvisit
  · intro p depth name names l hvisit ihBelow ihLater r hp hmem hsorted
    obtain ⟨hname, hmem⟩ := List.forall_mem_cons.1 hmem
    obtain ⟨hfirst, hrest⟩ := List.pairwise_cons.1 hsorted
    have hbelow : Obstacle disk here (p.child name.bytes) =
        fun rest why => Obstacle disk here p (name :: rest) why := by
      funext rest why
      exact propext (obstacle_cons_iff_of_directory hp hname hvisit).symm
    rw [crawlNames_of_directory hvisit, Walk.andThen]
    rw [hbelow] at ihBelow
    generalize (disk.crawl here (p.child name.bytes) depth.descend).result = below at ihBelow
    cases ihBelow with
    | through hnone => exact (ihLater r hp hmem hrest).map _ |>.cons hnone
    | stuck row hstuck => exact .stuck (name :: row) (hstuck.cons hfirst)
  · rintro p depth name names ⟨l, node⟩ hother hvisit ihLater r hp hmem hsorted
    obtain ⟨-, hmem⟩ := List.forall_mem_cons.1 hmem
    obtain ⟨-, hrest⟩ := List.pairwise_cons.1 hsorted
    have hnode : node ≠ .directory := fun hd => hother l (by rw [hd])
    rw [crawlNames_of_ne_directory hvisit hnode]
    exact ((ihLater r hp hmem hrest).map _).cons fun rest fault =>
      not_obstacle_of_ne_directory hvisit hnode

/-- A walk gets stuck at the first obstacle below its root, or finds its way through. -/
theorem walk_settles (disk : Disk) (here : Location) (root : Path) :
    Settles root (Obstacle disk here root) (disk.walk here root).result :=
  walk_result disk here root ▸ crawl_settles disk here root .root

/-- A walk asks for no text. -/
theorem walk_reads (disk : Disk) (here : Location) (root : Path) :
    (disk.walk here root).events.filterMap Event.read? = [] := by
  refine List.filterMap_eq_nil_iff.2 fun e he => ?_
  have hnote := walk_notes disk here root e he
  cases e <;> simp_all [Event.isNote, Event.read?]

/-! ## Runs -/

/-- A run fails on its walk, at a row of names below its root: there are no entries, nothing is
asked for but the walk, and the disk stays as it is. -/
structure StuckAt (here : Location) (config : Config) (disk : Disk) (row : List Name)
    (fault : Fault) (made : Run Disk) : Prop where
  walk : (disk.walk here config.root).result = .error (.directoryRead (config.root.below row) fault)
  result : made.result = .error
    (.stopped (.scanning config.root) (.system (.directoryRead (config.root.below row) fault)))
  reads : made.events.filterMap Event.read? = []
  writes : made.events.filterMap Event.write? = []
  store : made.store = disk

/-- A run whose walk gets stuck is over. -/
theorem stuckAt_of_walk {config : Config} (progress : Bool)
    (hwalk : (disk.walk here config.root).result =
      .error (.directoryRead (config.root.below row) fault)) :
    StuckAt here config disk row fault (run (access here config.mode) config progress disk) := by
  rw [(Ending.unwalked (access_walk config.mode hwalk)).run_eq]
  exact ⟨hwalk, rfl, walk_reads disk here config.root, walk_writes disk here config.root, rfl⟩

/-- A run whose walk finds entries does not fail while scanning. -/
theorem not_scanning_of_walk {config : Config} {progress : Bool} {entries : List Entry}
    (hwalk : (disk.walk here config.root).result = .ok entries) (cause : Failure) :
    (run (access here config.mode) config progress disk).result ≠
      .error (.stopped (.scanning config.root) cause) := by
  have hending := run_ending (access here config.mode) config progress disk
  generalize run (access here config.mode) config progress disk = made at hending
  cases hending with
  | unwalked hunwalked =>
      have herror := hwalk.symm.trans (congrArg Prod.snd hunwalked)
      cases herror
  | finished => simp
  | stopped => simp

/-- **A run stops at the first obstacle below its root**, wherever it is and whatever is in front of
it, before anything is read.  If there is no obstacle, the walk finds its way through. -/
theorem run_stops_at_first_obstacle (here : Location) (config : Config) (progress : Bool)
    (disk : Disk) :
    let made := run (access here config.mode) config progress disk
    ((∃ row fault, Obstacle disk here config.root row fault) →
      ∃! first, ∃ why, IsFirst (Obstacle disk here config.root) first why ∧
        StuckAt here config disk first why made) ∧
    ((∀ row fault, ¬ Obstacle disk here config.root row fault) →
      ∀ cause, made.result ≠ .error (.stopped (.scanning config.root) cause)) := by
  intro made
  have hsettles := walk_settles disk here config.root
  constructor
  · rintro ⟨row, fault, hobstacle⟩
    generalize hwalk : (disk.walk here config.root).result = result at hsettles
    cases hsettles with
    | through hnone => exact absurd hobstacle (hnone row fault)
    | stuck first hfirst =>
        refine ⟨first, ⟨_, hfirst, stuckAt_of_walk progress hwalk⟩, ?_⟩
        rintro other ⟨why, hother, -⟩
        exact hfirst.unique hother
  · intro hnone
    generalize hwalk : (disk.walk here config.root).result = result at hsettles
    cases hsettles with
    | through => exact not_scanning_of_walk hwalk
    | stuck first hfirst => exact absurd hfirst.mem (hnone first _)

/-- Two files with references, and behind each of them a link that leads nowhere. -/
def danglingDisk : Disk where
  nodes :=
    ⟨[(.ofPath (.ofText "/d"), .directory),
      (.ofPath (.ofText "/d/a.js"), .file 0),
      (.ofPath (.ofText "/d/s"), .directory),
      (.ofPath (.ofText "/d/s/b.js"), .file 1),
      (.ofPath (.ofText "/d/s/z"), .link (.ofText "gone")),
      (.ofPath (.ofText "/d/t"), .link (.ofText "gone"))],
      by decide⟩
  files :=
    ⟨[(0, ⟨Text.bytes "require(\"~/x\")", 0o644, false⟩),
      (1, ⟨Text.bytes "require(\"~/y\")", 0o644, false⟩)], by decide⟩

/-- Of two links that lead nowhere the walk gets stuck at the one in the directory, and the two
files in front of it stay as they are. -/
theorem run_stops_at_danglingDisk :
    ∃ first why, IsFirst (Obstacle danglingDisk [] (.ofText "d")) first why ∧
      StuckAt [] (.standard (.ofText "d")) danglingDisk first why
        (run (access [] .inPlace) (.standard (.ofText "d")) true danglingDisk) ∧
      (Path.ofText "d").below first = .ofText "d/s/z" := by
  have hlink : Obstacle danglingDisk [] (.ofText "d") [⟨Text.bytes "t", by decide⟩]
      (.system .noEntry) := by
    have hroot : danglingDisk.visit [] (.ofText "d") =
        .ok ([⟨Text.bytes "d", by decide⟩], .directory) := by
      cbv
    have hvisit : danglingDisk.visit [] ((Path.ofText "d").child (Text.bytes "t")) =
        .error (.system .noEntry) := by
      cbv
    exact .unseen hroot (mem_children.2 rfl) hvisit
  obtain ⟨first, ⟨why, hfirst, hstuck⟩, -⟩ :=
    (run_stops_at_first_obstacle [] (.standard (.ofText "d")) true danglingDisk).1
      ⟨_, _, hlink⟩
  have hwalk : (danglingDisk.walk [] (.ofText "d")).result =
      .error (.directoryRead (.ofText "d/s/z") (.system .noEntry)) := by
    cbv
  have hpath := hstuck.walk.symm.trans hwalk
  exact ⟨first, why, hfirst, hstuck, (SystemError.directoryRead.inj (Except.error.inj hpath)).1⟩

end Dealias.Disk
