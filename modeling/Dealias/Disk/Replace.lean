import Dealias.Disk.Read

/-!
# Replacing in one step

A file is replaced by a new one that is made beside it under a name of its own and then takes its
name.  So whoever looks sees either the old text or the new one.  Links on the way are followed
first and stay links; the new file takes over the permissions of the old one.  Other names of the
old file keep the old text.

The work has seven stages, and any of them may be struck by a fault.  A fault that strikes once the
new file is there has that file removed again; one while the new file is brought to the medium is
passed over.
-/

namespace Dealias.Disk

namespace Replace

/-- The stages of a replacement. -/
inductive Stage
  /-- Finding out where the path leads. -/
  | resolve
  /-- Making the new file. -/
  | create
  | write
  | flush
  /-- Giving it the permissions of the old file. -/
  | permit
  /-- Bringing it to the medium. -/
  | sync
  /-- Giving it the name of the old file. -/
  | rename
  deriving DecidableEq

/-- The faults that strike. -/
abbrev Troubles := Stage → Option Fault

/-- No fault strikes of its own accord. -/
def calm : Troubles := fun _ => none

/-- What is to be replaced. -/
inductive Target
  /-- The entry at a location. -/
  | entry (l : Location)
  /-- Nothing yet: the path is taken as it is given. -/
  | fresh (p : Path)

/-- What came of a replacement. -/
structure Attempt where
  disk : Disk
  fault? : Option Fault

/-- The beginning of the name of a new file, until it is renamed. -/
def tempStart : String := ".fix_paths."

/-- The end of that name. -/
def tempEnd : String := ".tmp"

/-- The middle of the `n`th such name: the decimal digits of `n`, six at the least. -/
def tempTag (n : Nat) : String :=
  let digits := toString n
  "".pushn '0' (6 - digits.length) ++ digits

/-- The bytes of the `n`th such name. -/
def tempBytes (n : Nat) : List UInt8 :=
  Text.bytes (tempStart ++ tempTag n ++ tempEnd)

/-- The first such name that a directory does not hold. -/
def freeName? (disk : Disk) (directory : Location) : Option Name :=
  (List.range (disk.nodes.rows.length + 1)).findSome? fun n =>
    (Name.ofBytes? (tempBytes n)).filter fun name => disk.node? (directory ++ [name]) = none

end Replace

open Replace

/-- What a path asks to have replaced.  A path that leads to nothing, and is not a link to nothing,
asks for a new entry. -/
def replaceTarget (disk : Disk) (here : Location) (p : Path) : Except Fault Target :=
  match disk.resolve here .spell p with
  | .ok (.found l _) => .ok (.entry l)
  | .ok _ => .error (.system .noEntry)
  | .error fault =>
    match disk.inspect here p with
    | .ok _ => .error fault
    | .error _ => if fault = .system .noEntry then .ok (.fresh p) else .error fault

/-- The absolute path under which the new file is made. -/
def tempPath (here : Location) : Target → Path
  | .entry l => (l.path.directory.under here.path).child (tempBytes 0)
  | .fresh p => (p.directory.under here.path).child (tempBytes 0)

/-- The directory in which the new file is made. -/
def tempDirectory (disk : Disk) (here : Location) (target : Target) : Except Fault Location :=
  let path := tempPath here target
  if pathLimit ≤ path.bytes.length then .error (.making .nameTooLong path)
  else
    match target with
    | .entry l => .ok (if l = [] then here else l.dropLast)
    | .fresh p =>
      match disk.visit here p.directory with
      | .ok (l, .directory) => .ok l
      | .ok _ => .error (.making .notDirectory path)
      | .error (.system errno) => .error (.making errno path)
      | .error fault => .error fault

/-- The permissions that the new file takes over. -/
def inheritedMode (disk : Disk) : Target → Option Nat
  | .entry l =>
    match disk.node? l with
    | some (.file id) => some (disk.file id).mode
    | _ => none
  | .fresh _ => none

/-- The location that a rename onto the target reaches. -/
def renameLocation (disk : Disk) (here : Location) : Target → Except Fault Location
  | .entry l =>
    if l = [] then .error (.system .busy)
    else if disk.node? l = some .directory then .error (.system .isDirectory)
    else .ok l
  | .fresh p =>
    match disk.resolve here .place p with
    | .error fault => .error fault
    | .ok .slashed => .error (.system .notDirectory)
    | .ok (.vacant directory name) => .ok (directory ++ [name])
    | .ok (.found l node) =>
      match (steps p).getLast? with
      | some (.down _) => if node = .directory then .error (.system .isDirectory) else .ok l
      | _ => .error (.system .busy)

/-- The disk with the entry at one location moved to another, over what is there. -/
def moveNode (disk : Disk) (source target : Location) (node : Node) : Disk :=
  { disk with nodes := (disk.nodes.erase source).set target node }

/-- The disk without a new file that was not wanted after all. -/
def discard (disk : Disk) (l : Location) (id : Nat) : Disk :=
  ⟨disk.nodes.erase l, disk.files.erase id⟩

/-- Goes on with the next stage, unless that stage is struck. -/
def stage (troubles : Troubles) (s : Stage) (disk : Disk) (next : Disk → Attempt) : Attempt :=
  match troubles s with
  | some fault => ⟨disk, some fault⟩
  | none => next disk

/-- Goes on with the next stage, also if this one is struck. -/
def stageAnyway (_ : Option Fault) (disk : Disk) (next : Disk → Attempt) : Attempt :=
  next disk

/-- The stages after the new file `id` was made at `temp`. -/
def fillAndRename (troubles : Troubles) (here : Location) (target : Target) (mode : Option Nat)
    (content : List UInt8) (temp : Location) (id : Nat) (disk : Disk) : Attempt :=
  stage troubles .write disk fun disk =>
  stage troubles .flush (disk.writeFile id content) fun disk =>
  let renamed (disk : Disk) : Attempt :=
    stageAnyway (troubles .sync) disk fun disk =>
    stage troubles .rename disk fun disk =>
    match disk.renameLocation here target with
    | .error fault => ⟨disk, some fault⟩
    | .ok l => ⟨disk.moveNode temp l (.file id), none⟩
  match mode with
  | none => renamed disk
  | some mode => stage troubles .permit disk fun disk => renamed (disk.setMode id mode)

/-- The permissions of the new file until it takes over others. -/
def tempMode : Nat := 0o600

/-- Replaces the file that a path leads to by one with the given content. -/
def replace (troubles : Troubles) (disk : Disk) (here : Location) (p : Path)
    (content : List UInt8) : Attempt :=
  stage troubles .resolve disk fun disk =>
  match disk.replaceTarget here p with
  | .error fault => ⟨disk, some fault⟩
  | .ok target =>
    stage troubles .create disk fun disk =>
    match disk.tempDirectory here target with
    | .error fault => ⟨disk, some fault⟩
    | .ok directory =>
      match freeName? disk directory with
      | none => ⟨disk, some (.system .fileExists)⟩
      | some name =>
        let temp := directory ++ [name]
        let id := disk.freshId
        let attempt :=
          fillAndRename troubles here target (disk.inheritedMode target) content temp id
            (disk.addFile temp ⟨[], tempMode, true⟩)
        match attempt.fault? with
        | none => attempt
        | some fault => ⟨attempt.disk.discard temp id, some fault⟩

end Dealias.Disk
