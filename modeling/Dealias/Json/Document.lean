import Dealias.Json.Skip
import Dealias.Json.Value

/-!
# Reading a JSON document

Where nothing special is asked for, a JSON text is read as the value that it stands for.  Objects
keep their members as they stand there, in their order and with keys that occur twice.  `null` and
numbers that are no unsigned 64-bit integers are JSON, but none of the values that can be written.

As in passing over a value, the brackets that are open are kept in a list, innermost first, each
with what was read inside it so far; so nesting costs no recursion of its own.
-/

namespace Dealias.Json

/-! ## Scalars -/

variable {cs rest : List Char} {number : Number} {n : Nat}

/-- Only digits alone make a natural number. -/
theorem fractional_eq_other {significand : Nat} {exponent : Int}
    (h : fractional significand exponent = .ok number) : number = .other := by
  unfold fractional at h
  split at h
  · cases h
  · exact (Except.ok.inj h).symm

theorem readExponent_eq_other {significand : Nat} {exponent : Int}
    (h : readExponent significand exponent cs = .ok (number, rest)) : number = .other := by
  simp only [readExponent, bind, Except.bind] at h
  grind [fractional_eq_other]

theorem readScale_eq_other {significand : Nat} {exponent : Int}
    (h : readScale significand exponent cs = .ok (number, rest)) : number = .other := by
  simp only [readScale, bind, Except.bind] at h
  grind [fractional_eq_other, readExponent_eq_other]

/-- A natural number is read from its first digit up to the last one. -/
theorem readUnsigned_eq_natural (h : readUnsigned cs = .ok (.natural n, rest)) :
    cs.takeWhile Char.isDigit ≠ [] ∧ rest = cs.dropWhile Char.isDigit := by
  simp only [readUnsigned, bind, Except.bind] at h
  grind [fractional_eq_other, readExponent_eq_other, readScale_eq_other]

theorem readNatural_shorter (h : readNatural cs = .ok (n, rest)) : rest.length < cs.length := by
  unfold readNatural at h
  split at h
  · cases h
  rename_i c tail hblank
  have hcs := skipBlank_length cs
  rw [hblank] at hcs
  split at h
  · have hnumber : readUnsigned (c :: tail) = .ok (.natural n, rest) := by
      simp only [readNumber, bind, Except.bind] at h
      grind
    obtain ⟨hdigits, rfl⟩ := readUnsigned_eq_natural hnumber
    have hsplit := congrArg List.length
      (List.takeWhile_append_dropWhile (p := Char.isDigit) (l := c :: tail))
    have hpos := List.length_pos_iff.2 hdigits
    rw [List.length_append] at hsplit
    omega
  · cases h

/-- A text, a truth value or a number, and not blank in front. -/
def readScalar : List Char → Except Problem (Value × List Char)
  | '"' :: rest => (readString [] rest).map fun (s, rest) => (.text s, rest)
  | 't' :: rest => (readWord "rue".toList rest).map fun rest => (.bool true, rest)
  | 'f' :: rest => (readWord "alse".toList rest).map fun rest => (.bool false, rest)
  | cs => (readNatural cs).map fun (n, rest) => (.natural n, rest)

theorem eq_ok_of_map {α β : Type} {x : Except Problem α} {f : α → β} {b : β}
    (h : x.map f = .ok b) : ∃ a, x = .ok a ∧ f a = b := by
  cases x with
  | error e => cases h
  | ok a => exact ⟨a, rfl, Except.ok.inj h⟩

theorem readScalar_shorter {v : Value} (h : readScalar cs = .ok (v, rest)) :
    rest.length < cs.length := by
  unfold readScalar at h
  split at h
  · obtain ⟨⟨s, left⟩, hread, h⟩ := eq_ok_of_map h
    cases h
    have := readString_shorter hread
    simp only [List.length_cons]
    omega
  · obtain ⟨left, hread, h⟩ := eq_ok_of_map h
    cases h
    have := readWord_length hread
    simp only [List.length_cons]
    omega
  · obtain ⟨left, hread, h⟩ := eq_ok_of_map h
    cases h
    have := readWord_length hread
    simp only [List.length_cons]
    omega
  · obtain ⟨⟨n, left⟩, hread, h⟩ := eq_ok_of_map h
    cases h
    exact readNatural_shorter hread

/-- A key with its colon, behind its opening quotation mark. -/
def readLabel (cs : List Char) : Except Problem (String × List Char) := do
  let (key, rest) ← readString [] cs
  match skipBlank rest with
  | ':' :: rest => .ok (key, rest)
  | [] => .error .ended
  | _ => .error .malformed

theorem readLabel_shorter {key : String} (h : readLabel cs = .ok (key, rest)) :
    rest.length < cs.length := by
  simp only [readLabel, bind, Except.bind] at h
  grind [→ readString_shorter, → skipBlank_shorter]

/-! ## Values inside brackets -/

/-- A bracket around the value that is being read, with the members in front of it, last one first,
and in an object with its key. -/
inductive Frame
  | list (done : List Value)
  | object (done : List (String × Value)) (key : String)

/-- The character that closes the bracket. -/
def Frame.close : Frame → Char
  | list _ => ']'
  | object _ _ => '\x7d'

/-- What the bracket holds if a value is its last member. -/
def Frame.value (v : Value) : Frame → Value
  | list done => .list (v :: done).reverse
  | object done key => .object ((key, v) :: done).reverse

/-- What comes next in a document. -/
inductive Stage
  /-- A value. -/
  | value
  /-- The key of a member, behind those of its object that were read. -/
  | key (done : List (String × Value))
  /-- What follows a value. -/
  | behind (v : Value)

/-- Where the reading of a document stands: what comes next, inside the open brackets, with the
characters that are left. -/
structure Reading where
  stage : Stage
  within : List Frame
  left : List Char

/-- The beginning of a value: its opening bracket, or all of it if it has no members. -/
def beginValue (within : List Frame) : List Char → Except Problem Reading
  | '[' :: rest =>
    match skipBlank rest with
    | ']' :: left => .ok ⟨.behind (.list []), within, left⟩
    | _ => .ok ⟨.value, .list [] :: within, rest⟩
  | '\x7b' :: rest =>
    match skipBlank rest with
    | '\x7d' :: left => .ok ⟨.behind (.object []), within, left⟩
    | _ => .ok ⟨.key [], within, rest⟩
  | cs => (readScalar cs).map fun (v, rest) => ⟨.behind v, within, rest⟩

/-- The key of a member, with its colon. -/
def beginMember (within : List Frame) (done : List (String × Value)) :
    List Char → Except Problem Reading
  | '"' :: rest =>
    (readLabel rest).map fun (key, rest) => ⟨.value, .object done key :: within, rest⟩
  | [] => .error .ended
  | _ => .error .malformed

/-- What follows a value in a bracket: a comma, or the end of the bracket. -/
def endValue (within : List Frame) (v : Value) (frame : Frame) : List Char → Except Problem Reading
  | [] => .error .ended
  | c :: rest =>
    if c = ',' then
      match frame with
      | .list done => .ok ⟨.value, .list (v :: done) :: within, rest⟩
      | .object done key => .ok ⟨.key ((key, v) :: done), within, rest⟩
    else if c = frame.close then .ok ⟨.behind (frame.value v), within, rest⟩
    else .error .malformed

/-- Reads the next piece.  Behind a value with no bracket around it there is none. -/
def Reading.next (r : Reading) : Except Problem Reading :=
  match r.stage, r.within with
  | .value, within => beginValue within (skipBlank r.left)
  | .key done, within => beginMember within done (skipBlank r.left)
  | .behind v, frame :: within => endValue within v frame (skipBlank r.left)
  | .behind _, [] => .error .malformed

theorem beginValue_shorter {within : List Frame} {r : Reading} (h : beginValue within cs = .ok r) :
    r.left.length < cs.length := by
  unfold beginValue at h
  split at h
  · split at h
    · rename_i hblank
      cases h
      have := skipBlank_shorter hblank
      simp only [List.length_cons]
      omega
    · cases h
      simp
  · split at h
    · rename_i hblank
      cases h
      have := skipBlank_shorter hblank
      simp only [List.length_cons]
      omega
    · cases h
      simp
  · obtain ⟨⟨v, rest⟩, hread, rfl⟩ := eq_ok_of_map h
    exact readScalar_shorter hread

theorem beginMember_shorter {within : List Frame} {done : List (String × Value)} {r : Reading}
    (h : beginMember within done cs = .ok r) : r.left.length < cs.length := by
  unfold beginMember at h
  split at h
  · obtain ⟨⟨key, rest⟩, hread, rfl⟩ := eq_ok_of_map h
    have := readLabel_shorter hread
    simp only [List.length_cons]
    omega
  · cases h
  · cases h

theorem endValue_shorter {within : List Frame} {v : Value} {frame : Frame} {r : Reading}
    (h : endValue within v frame cs = .ok r) : r.left.length < cs.length := by
  unfold endValue at h
  split at h
  · cases h
  · split at h
    · split at h <;> cases h <;> simp
    · split at h
      · cases h
        simp
      · cases h

/-- Every piece makes what is left shorter. -/
theorem Reading.next_shorter {r s : Reading} (h : r.next = .ok s) :
    s.left.length < r.left.length := by
  have hblank := skipBlank_length r.left
  unfold next at h
  split at h
  · exact Nat.lt_of_lt_of_le (beginValue_shorter h) hblank
  · exact Nat.lt_of_lt_of_le (beginMember_shorter h) hblank
  · exact Nat.lt_of_lt_of_le (endValue_shorter h) hblank
  · cases h

/-- The value, if it is read and no bracket is open around it. -/
def Reading.value? (r : Reading) : Option Value :=
  match r.stage, r.within with
  | .behind v, [] => some v
  | _, _ => none

/-- Reads piece after piece up to the end of the outermost value. -/
def Reading.run (r : Reading) : Except Problem (Value × List Char) :=
  match r.value? with
  | some v => .ok (v, r.left)
  | none =>
    match _h : r.next with
    | .error e => .error e
    | .ok s => s.run
termination_by r.left.length
decreasing_by exact next_shorter _h

/-- Reads a value from a whole text. -/
def readDocument (text : String) : Except Problem Value := do
  let (v, rest) ← Reading.run ⟨.value, [], text.toList⟩
  readEnd rest
  return v

end Dealias.Json
