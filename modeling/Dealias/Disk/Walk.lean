import Dealias.Disk.Read
import Dealias.Run.Event

/-!
# Walking a disk

A walk lists a directory, looks at what each name leads to, and goes into directories as it meets
them; everything else is an entry.  Links are followed, so a name may lead into a directory and one
file may be met under several paths.  The first directory that cannot be listed, or name that leads
nowhere, ends the walk.

The paths of a walk get longer with every directory, and a path at the limit leads nowhere.  That
ends every walk, also one into a directory that holds a link to itself.
-/

namespace Dealias.Disk

/-- What a walk noted, and the entries that it found or the fault that ended it. -/
structure Walk where
  events : List Event
  result : Except SystemError (List Entry)

namespace Walk

/-- A walk that ends here. -/
def failed (p : Path) (fault : Fault) : Walk :=
  ⟨[], .error (.directoryRead p fault)⟩

/-- A walk that found nothing. -/
def nothing : Walk := ⟨[], .ok []⟩

/-- A walk that begins with a note. -/
def note (event : Event) (w : Walk) : Walk :=
  ⟨event :: w.events, w.result⟩

/-- One walk and then another, which is not begun if the first one fails. -/
def andThen (first : Walk) (later : Unit → Walk) : Walk :=
  match first.result with
  | .error e => ⟨first.events, .error e⟩
  | .ok entries =>
    let second := later ()
    ⟨first.events ++ second.events, second.result.map (entries ++ ·)⟩

/-- A walk that finds one entry more at its front. -/
def found (entry : Entry) (later : Walk) : Walk :=
  ⟨later.events, later.result.map (entry :: ·)⟩

end Walk

/-- How much longer a path may get. -/
def pathRoom (p : Path) : Nat := pathLimit - p.bytes.length

/-- A path gets longer by a name. -/
theorem length_lt_length_child (p : Path) (name : Name) :
    p.bytes.length < (p.child name.bytes).bytes.length := by
  have := List.length_pos_iff.2 name.isName.1
  unfold Path.child
  split
  · simpa using this
  · simp

/-- Below a name that leads somewhere there is less room than above it. -/
theorem pathRoom_child_lt {disk : Disk} {here : Location} {p : Path} {name : Name}
    {found : Location × Node} (h : disk.visit here (p.child name.bytes) = .ok found) :
    pathRoom (p.child name.bytes) < pathRoom p := by
  have := length_lt_length_child p name
  have := length_lt_of_visit h
  unfold pathRoom
  omega

mutual

/-- All entries below a directory, whose files lie at the given depth. -/
def crawl (disk : Disk) (here : Location) (p : Path) (depth : Depth) : Walk :=
  Walk.note (.crawl p depth) <|
    match disk.list here p with
    | .error fault => .failed p fault
    | .ok names => crawlNames disk here p depth names
termination_by (pathRoom p, 1, 0)

/-- All entries that the names of a directory lead to. -/
def crawlNames (disk : Disk) (here : Location) (p : Path) (depth : Depth) : List Name → Walk
  | [] => .nothing
  | name :: names =>
    match _h : disk.visit here (p.child name.bytes) with
    | .error fault => .failed (p.child name.bytes) fault
    | .ok (_, .directory) =>
      (crawl disk here (p.child name.bytes) depth.descend).andThen fun _ =>
        crawlNames disk here p depth names
    | .ok _ => .found ⟨p.child name.bytes, depth⟩ (crawlNames disk here p depth names)
termination_by names => (pathRoom p, 0, names.length)
decreasing_by
  · have := pathRoom_child_lt _h
    apply Prod.Lex.left
    assumption
  · apply Prod.Lex.right
    apply Prod.Lex.right
    simp
  · apply Prod.Lex.right
    apply Prod.Lex.right
    simp

end

/-- The walk over everything below a root. -/
def walk (disk : Disk) (here : Location) (root : Path) : Walk :=
  let crawled := disk.crawl here root .root
  match crawled.result with
  | .error e => ⟨crawled.events, .error e⟩
  | .ok entries => ⟨crawled.events ++ [.found entries.length root], .ok entries⟩

end Dealias.Disk
