import Dealias.Disk.Edit

/-!
# Disks as bytes

A disk is handed over as a sequence of fields, each with its length in front: a letter for what
comes, the path, and what is needed to lay it out.  A file with several names comes in full under
the first of them.
-/

namespace Dealias.Disk.Archive

/-- One field: its length in decimal digits, a colon, its bytes and a comma. -/
def field (bytes : List UInt8) : List UInt8 :=
  Text.bytes (toString bytes.length) ++ Text.bytes ":" ++ bytes ++ Text.bytes ","

/-- The number that decimal digits stand for. -/
def number? (digits : List UInt8) : Option Nat :=
  (Text.ofBytes? digits).bind String.toNat?

/-- The byte behind the length of a field. -/
def colon : UInt8 := 0x3A

/-- The byte behind a field. -/
def comma : UInt8 := 0x2C

/-- The fields of a byte sequence, if it consists of fields. -/
def fields? (bytes : List UInt8) : Option (List (List UInt8)) :=
  match bytes with
  | [] => some []
  | first :: rest =>
    let length := number? ((first :: rest).takeWhile (· ≠ colon))
    match (first :: rest).dropWhile (· ≠ colon), length with
    | _ :: body, some n =>
      match body.drop n with
      | c :: more =>
        if c = comma ∧ more.length < rest.length then (fields? more).map (body.take n :: ·)
        else none
      | [] => none
    | _, _ => none
termination_by bytes.length

/-- The fields of an item at a path. -/
def itemFields (p : Path) : Item → List (List UInt8)
  | .directory => [Text.bytes "d", p.bytes]
  | .file content mode => [Text.bytes "f", p.bytes, Text.bytes (toString mode), content]
  | .link target => [Text.bytes "l", p.bytes, target.bytes]
  | .nameFor existing => [Text.bytes "n", p.bytes, existing.bytes]

/-- The items that fields describe, if they describe items. -/
def items? : List (List UInt8) → Option (List (Path × Item))
  | [] => some []
  | kind :: p :: a :: b :: rest =>
    if kind = Text.bytes "d" then (items? (a :: b :: rest)).map ((⟨p⟩, .directory) :: ·)
    else if kind = Text.bytes "l" then (items? (b :: rest)).map ((⟨p⟩, .link ⟨a⟩) :: ·)
    else if kind = Text.bytes "n" then (items? (b :: rest)).map ((⟨p⟩, .nameFor ⟨a⟩) :: ·)
    else if kind = Text.bytes "f" then
      (number? a).bind fun mode => (items? rest).map ((⟨p⟩, .file b mode) :: ·)
    else none
  | [kind, p, a] =>
    if kind = Text.bytes "l" then some [(⟨p⟩, .link ⟨a⟩)]
    else if kind = Text.bytes "n" then some [(⟨p⟩, .nameFor ⟨a⟩)]
    else none
  | [kind, p] => if kind = Text.bytes "d" then some [(⟨p⟩, .directory)] else none
  | [_] => none

/-- The items of a disk.  `seen` tells the first paths of the files that came before. -/
def items (disk : Disk) (seen : List (Nat × Path)) : List Location → List (Path × Item)
  | [] => []
  | l :: rest =>
    match disk.node? l with
    | none => items disk seen rest
    | some .directory => (l.path, .directory) :: items disk seen rest
    | some (.link target) => (l.path, .link target) :: items disk seen rest
    | some (.file id) =>
      match seen.lookup id with
      | some first => (l.path, .nameFor first) :: items disk seen rest
      | none =>
        let f := disk.file id
        (l.path, .file f.content f.mode) :: items disk ((id, l.path) :: seen) rest

/-- A disk as bytes. -/
def encode (disk : Disk) : List UInt8 :=
  (items disk [] disk.nodes.keys).flatMap fun (p, item) => (itemFields p item).flatMap field

/-- The disk that bytes describe; nothing if they describe none. -/
def decode? (bytes : List UInt8) : Option Disk :=
  ((fields? bytes).bind items?).bind fun items => (Disk.empty.putAll [] items).toOption

end Dealias.Disk.Archive
