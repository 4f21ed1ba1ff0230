import Dealias.Disk.Basic
import Dealias.Fault

/-!
# Where a path leads

A path is followed step by step.  A link on the way is replaced by the path that it stands for, at
most `linkLimit` times in all; whether a link at the very end is followed too, and whether the last
name may be missing, depends on what the path is wanted for.

A path is handed over whole, and then its own length is limited.  Only `spell` works it out from
the top, one entry after the other, so that there the path given may have any length, and every
absolute path on the way is limited instead.

`along` goes as far as it can without following a link, by recursion on the steps; `within` follows
links by recursion on the number that may still be followed.  So links that lead to each other end
in a fault, and no path is followed forever.
-/

namespace Dealias.Disk

/-- How many links are followed for one path. -/
def linkLimit : Nat := 40

/-- The length from which on a path is too long. -/
def pathLimit : Nat := 4096

/-- What a path is wanted for. -/
inductive Purpose
  /-- To get to what is there; a last link is followed. -/
  | visit
  /-- To look at the last name itself, be it a link. -/
  | inspect
  /-- To open a file that may be new; a last link is followed. -/
  | create
  /-- To put something under the last name, which may be new. -/
  | place
  /-- To find the path without detours; a last link is followed. -/
  | spell
  deriving DecidableEq

/-- Is a link at the end of the path followed? -/
def Purpose.follows : Purpose → Bool
  | visit => true
  | create => true
  | inspect => false
  | place => false
  | spell => true

/-- May the last name be missing? -/
def Purpose.mayBeNew : Purpose → Bool
  | visit => false
  | inspect => false
  | create => true
  | place => true
  | spell => false

/-- Do these steps ask of what is in front of them that it is a directory, and no more? -/
def askDirectory (rest : List Step) : Bool :=
  match rest.dropWhile fun step => step = .here ∨ step = .slash with
  | [] => rest ≠ []
  | step :: _ => step = .up

/-- Is the path by which a purpose looks an entry up too long?  Only `spell` uses a path of its own,
from the top: the path of the directory, a separator and the name, and another separator where the
entry has to be a directory. -/
def Purpose.isBeyond (purpose : Purpose) (directory : Location) (name : Nat) (asDirectory : Bool) :
    Bool :=
  let length := directory.foldl (fun n above => n + 1 + above.bytes.length) (1 + name)
  purpose = .spell && pathLimit ≤ if asDirectory then length + 1 else length

/-- The fault of going on from a file, which holds nothing. -/
def beyondFile (purpose : Purpose) (file : Location) : List Step → Errno
  | .here :: rest | .slash :: rest => beyondFile purpose file rest
  | .down name :: rest => missing name.bytes.length rest
  | .overlong length :: rest => missing length rest
  | .up :: _ | [] => .notDirectory
where
  missing (name : Nat) (rest : List Step) : Errno :=
    if purpose.isBeyond file name (askDirectory rest) then .nameTooLong else .notDirectory

/-- Where a path leads. -/
inductive Place
  /-- To a node. -/
  | found (l : Location) (node : Node)
  /-- To a name that a directory does not hold. -/
  | vacant (directory : Location) (name : Name)
  /-- To a name with a separator behind it, where a new name is possible. -/
  | slashed

/-- Follows steps from a directory up to the first link that is to be followed; `atLink` goes on
from there. -/
def along (disk : Disk) (purpose : Purpose) (atLink : Location → List Step → Except Errno Place)
    (directory : Location) : List Step → Except Errno Place
  | [] => .ok (.found directory .directory)
  | .here :: rest => along disk purpose atLink directory rest
  | .slash :: rest => along disk purpose atLink directory rest
  | .up :: rest => along disk purpose atLink directory.dropLast rest
  | .overlong _ :: rest =>
    if purpose.mayBeNew ∧ rest = [.slash] then .ok .slashed else .error .nameTooLong
  | .down name :: rest =>
    if purpose.mayBeNew ∧ rest = [.slash] then .ok .slashed
    else
      let entry := disk.node? (directory ++ [name])
      let asDirectory := askDirectory rest && !entry.any Node.isLink
      if purpose.isBeyond directory name.bytes.length asDirectory then .error .nameTooLong
      else match entry with
      | none =>
        if purpose.mayBeNew ∧ rest = [] then .ok (.vacant directory name) else .error .noEntry
      | some .directory => along disk purpose atLink (directory ++ [name]) rest
      | some (.file id) =>
        if rest = [] then .ok (.found (directory ++ [name]) (.file id))
        else .error (beyondFile purpose (directory ++ [name]) rest)
      | some (.link target) =>
        if rest = [] ∧ ¬ purpose.follows then .ok (.found (directory ++ [name]) (.link target))
        else atLink (if target.isAbsolute then [] else directory) (steps target ++ rest)

/-- Follows steps from a directory, through at most as many links as given. -/
def within (disk : Disk) (purpose : Purpose) : Nat → Location → List Step → Except Errno Place
  | 0 => along disk purpose fun _ _ => .error .tooManyLinks
  | links + 1 => along disk purpose (within disk purpose links)

/-- Where a path leads, for a reader who stands in the directory `here`. -/
def resolve (disk : Disk) (here : Location) (purpose : Purpose) (p : Path) : Except Fault Place :=
  if 0 ∈ p.bytes then .error .nulInPath
  else if p.bytes = [] then .error (.system .noEntry)
  else if purpose ≠ .spell ∧ pathLimit ≤ p.bytes.length then .error (.system .nameTooLong)
  else
    (within disk purpose linkLimit (if p.isAbsolute then [] else here) (steps p)).mapError .system

end Dealias.Disk
