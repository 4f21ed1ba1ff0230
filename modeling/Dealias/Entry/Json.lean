import Dealias.Entry
import Dealias.Json.Skip
import Dealias.Json.Value

/-!
# Entries as JSON

An entry is written as an object with the members `path` and `depth`, and a depth as a number.
Only a path that is a text can be written.  What is read may hold the two members in either order,
with others among them, or be a list of the two; but each must be there, and only once.
-/

namespace Dealias

open Json

/-- An entry on one line.  A path that is not a text has no written form. -/
def Entry.toJson (e : Entry) : Except SystemError String :=
  match e.path.text? with
  | none => .error .summaryRender
  | some path =>
    .ok <| String.ofList <|
      compact (.object [("path", .text path), ("depth", .natural e.depth.levels)])

/-- A depth as a number. -/
def Depth.toJson (d : Depth) : String :=
  String.ofList (compact (.natural d.levels))

/-- Reads a depth from a whole text. -/
def Depth.ofJson (text : String) : Except Problem Depth := do
  let (levels, rest) ← readNatural text.toList
  readEnd rest
  return ⟨levels⟩

namespace Entry

/-- The members of an entry that are read so far. -/
structure Members where
  path : Option String
  depth : Option Nat

/-- How many members are still to be read. -/
def Members.missing (m : Members) : Nat :=
  (if m.path.isSome then 0 else 1) + (if m.depth.isSome then 0 else 1)

/-- The entry, once nothing is missing. -/
def Members.entry? (m : Members) : Except Problem Entry :=
  match m.path, m.depth with
  | some path, some levels => .ok ⟨Path.ofText path, ⟨levels⟩⟩
  | _, _ => .error .mismatched

/-- The colon behind a key. -/
def readColon (cs : List Char) : Except Problem (List Char) :=
  match skipBlank cs with
  | ':' :: rest => .ok rest
  | [] => .error .ended
  | _ => .error .malformed

theorem readColon_shorter {cs rest : List Char} (h : readColon cs = .ok rest) :
    rest.length < cs.length := by
  unfold readColon at h
  split at h
  · next tail hb =>
    simp only [Except.ok.injEq] at h
    exact h ▸ skipBlank_shorter hb
  · simp at h
  · simp at h

/-- A key, with the comma in front of it unless it is the first; none at the object's end. -/
def readKey (isFirst : Bool) (cs : List Char) : Except Problem (Option String × List Char) :=
  match skipBlank cs with
  | [] => .error .ended
  | c :: rest =>
    if c = '\x7d' then .ok (none, rest)
    else if isFirst then
      if c = '"' then name rest else .error .malformed
    else if c = ',' then
      match skipBlank rest with
      | [] => .error .ended
      | d :: rest => if d = '"' then name rest else .error .malformed
    else .error .malformed
where
  name (cs : List Char) : Except Problem (Option String × List Char) :=
    (readString [] cs).map fun (key, rest) => (some key, rest)

theorem readKey_name_shorter {cs rest : List Char} {key : Option String}
    (h : readKey.name cs = .ok (key, rest)) : rest.length < cs.length := by
  unfold readKey.name at h
  cases hs : readString [] cs with
  | error e => simp [hs, Except.map] at h
  | ok r =>
    obtain ⟨name, left⟩ := r
    have := readString_shorter hs
    simp [hs, Except.map] at h
    simpa [← h.2] using this

theorem readKey_shorter {isFirst : Bool} {cs rest : List Char} {key : Option String}
    (h : readKey isFirst cs = .ok (key, rest)) : rest.length < cs.length := by
  unfold readKey at h
  split at h
  · simp at h
  · next c tail hb =>
    have := skipBlank_shorter hb
    split at h
    · simp only [Except.ok.injEq, Prod.mk.injEq] at h
      simpa [← h.2] using this
    · split at h
      · split at h
        · have := readKey_name_shorter h
          omega
        · simp at h
      · split at h
        · split at h
          · simp at h
          · next d left hd =>
            have := skipBlank_shorter hd
            split at h
            · have := readKey_name_shorter h
              omega
            · simp at h
        · simp at h

/-- The members of an object behind its opening bracket. -/
def readMembers (m : Members) (isFirst : Bool) (cs : List Char) :
    Except Problem (Members × List Char) :=
  match _hk : readKey isFirst cs with
  | .error e => .error e
  | .ok (none, rest) => .ok (m, rest)
  | .ok (some key, rest) =>
    if key = "path" then
      if _hp : m.path.isSome then .error .mismatched
      else
        match readColon rest >>= readText with
        | .error e => .error e
        | .ok (path, rest) => readMembers { m with path := some path } false rest
    else if key = "depth" then
      if _hd : m.depth.isSome then .error .mismatched
      else
        match readColon rest >>= readNatural with
        | .error e => .error e
        | .ok (depth, rest) => readMembers { m with depth := some depth } false rest
    else
      match _hc : readColon rest with
      | .error e => .error e
      | .ok colon =>
        match _hv : skipValue colon with
        | .error e => .error e
        | .ok rest => readMembers m false rest
termination_by (m.missing, cs.length)
decreasing_by
  · exact Prod.Lex.left _ _ (by simp [Members.missing, _hp])
  · exact Prod.Lex.left _ _ (by simp [Members.missing, _hd])
  · have := readKey_shorter _hk
    have := readColon_shorter _hc
    have := skipValue_length _hv
    exact Prod.Lex.right _ (by omega)

/-- The next item of a list, with the comma in front of it unless it is the first. -/
def readItem {α : Type} (isFirst : Bool) (read : List Char → Except Problem (α × List Char))
    (cs : List Char) : Except Problem (α × List Char) :=
  match skipBlank cs with
  | [] => .error .ended
  | c :: rest =>
    if c = ']' then .error .mismatched
    else if isFirst then read (c :: rest)
    else if c = ',' then
      match skipBlank rest with
      | [] => .error .ended
      | d :: rest => if d = ']' then .error .malformed else read (d :: rest)
    else .error .malformed

/-- The closing bracket of a list. -/
def readClose (cs : List Char) : Except Problem (List Char) :=
  match skipBlank cs with
  | [] => .error .ended
  | c :: rest => if c = ']' then .ok rest else .error .malformed

/-- Reads an entry from a whole text. -/
def ofJson (text : String) : Except Problem Entry := do
  match skipBlank text.toList with
  | '\x7b' :: rest =>
    let (members, rest) ← readMembers ⟨none, none⟩ true rest
    let entry ← members.entry?
    readEnd rest
    return entry
  | '[' :: rest =>
    let (path, rest) ← readItem true readText rest
    let (levels, rest) ← readItem false readNatural rest
    readEnd (← readClose rest)
    return ⟨Path.ofText path, ⟨levels⟩⟩
  | cs => .error (mismatch cs)

end Entry

end Dealias
